/-!
# Address — where a provider listens

The address of a provider names a host, a service on it and what is asked for there.  Only plain connections are made, so
any other scheme has no address here.
-/
namespace Pinpoint
namespace Chat

structure Address where
  host    : String
  /-- The number of the service on the host. -/
  service : Nat
  path    : String
  deriving DecidableEq, Repr, Inhabited

namespace Address

def afterScheme? : List Char → Option (List Char)
  | 'h' :: 't' :: 't' :: 'p' :: ':' :: '/' :: '/' :: cs => some cs
  | _                                                   => none

/-- A run of digits as the number of a service, the usual one if there are none. -/
def service? (cs : List Char) : Option Nat :=
  if cs.isEmpty then some 80
  else if cs.all Char.isDigit then
    let n := cs.foldl (fun n c => n * 10 + (c.toNat - 48)) 0
    if n < 65536 then some n else none
  else none

/-- What is asked for, without the mark of a place in it. -/
def pathOf (cs : List Char) : String :=
  match cs.takeWhile (· != '#') with
  | []        => "/"
  | '?' :: cs => String.ofList ('/' :: '?' :: cs)
  | cs        => String.ofList cs

/-- **The address in a URL.** -/
def ofUrl? (s : String) : Option Address := do
  let cs ← afterScheme? s.toList
  let place := cs.takeWhile fun c => c != '/' && c != '?' && c != '#'
  let host := place.takeWhile (· != ':')
  let service ← service? ((place.drop host.length).drop 1)
  if host.isEmpty then none else some ⟨String.ofList host, service, pathOf (cs.drop place.length)⟩

end Address
end Chat
end Pinpoint
