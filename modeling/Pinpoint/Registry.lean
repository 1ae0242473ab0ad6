import Pinpoint.Config
import Pinpoint.Chat.Exchange
import Pinpoint.Text.Case
/-!
# Registry — who answers which kind of question

Providers are known by their names.  A role is answered by the provider and model that the configuration gives it, and
otherwise by the active provider with its own model.  The key of a provider comes from the environment if it is there, and
else from the configuration.
-/
namespace Pinpoint

/-- The two kinds of questions. -/
inductive Role where
  | grounding
  | selection
  deriving DecidableEq, Repr

namespace Role

def name : Role → String
  | grounding => "grounding"
  | selection => "selection"

/-- The role that answers in a shape. -/
def ofSchema : Schema → Role
  | .grounding => grounding
  | .vote      => selection

def entry? (c : Config) : Role → Option RoleEntry
  | grounding => c.grounding
  | selection => c.selection

end Role

/-- Someone who can be asked. -/
structure Provider where
  id      : String
  apiBase : String
  key     : String
  deriving DecidableEq, Repr, Inhabited

/-- **The request that asks a provider**; an address or a key that cannot be sent makes none. -/
def Provider.request (p : Provider) (c : Chat.Call) (s : Chat.Format) (prompt : String) (picture : Option String) :
    Except Fault Chat.Request :=
  match Chat.Address.ofUrl? p.apiBase with
  | none   => .error (.http "no address to send to")
  | some a =>
    if Chat.isHeaderText (Chat.authorization p.key) then
      .ok ⟨a, Chat.authorization p.key, Chat.body c s prompt picture⟩
    else .error (.http "no key to send")

structure Registry where
  providers : List Provider
  config    : Config

namespace Registry

/-- Nobody yet. -/
def empty (active : String) : Registry := ⟨[], { active }⟩

/-- A provider takes the place of the one of its name. -/
def register (r : Registry) (p : Provider) : Registry :=
  { r with providers := r.providers.filter (fun q => q.id != p.id) ++ [p] }

/-- The variable that holds the key of a provider. -/
def keyVariable (id : String) : String := "SEECLAW_" ++ Text.toUpper id ++ "_API_KEY"

def keyOf (environment : String → Option String) (id : String) (e : ProviderEntry) : String :=
  match environment (keyVariable id) with
  | some k => k
  | none   => e.apiKey.getD ""

def ofConfig (environment : String → Option String) (c : Config) : Registry :=
  c.providers.foldl (fun r p => r.register ⟨p.1, p.2.apiBase, keyOf environment p.1 p.2⟩) ⟨[], c⟩

def names (r : Registry) : List String := r.providers.map (·.id)

def get? (r : Registry) (id : String) : Option Provider := r.providers.find? fun p => p.id == id

def active (r : Registry) : Except Fault Provider :=
  match r.get? r.config.active with
  | some p => .ok p
  | none   => .error (.config ("Active provider '" ++ r.config.active ++ "' not found in registry"))

/-- The temperature of a provider, also of one that the configuration does not know. -/
def temperatureOf (r : Registry) (id : String) : Float := ((r.config.providers.lookup id).map (·.temperature)).getD 0.1

def modelOf (r : Registry) (id : String) : String := ((r.config.providers.lookup id).map (·.model)).getD ""

/-- **Who answers a role, and with which model.** -/
def resolve (r : Registry) (role : Role) : Except Fault (Provider × Chat.Call) :=
  match role.entry? r.config with
  | some e =>
    match r.get? e.provider with
    | some p => .ok (p, ⟨e.model, e.temperature.getD (r.temperatureOf e.provider)⟩)
    | none   => .error (.config ("Role '" ++ role.name ++ "' references unknown provider '" ++ e.provider ++ "'"))
  | none => r.active.map fun p => (p, ⟨r.modelOf p.id, r.temperatureOf p.id⟩)

/-- Who answers either role. -/
structure Team where
  grounding : Provider × Chat.Call
  selection : Provider × Chat.Call

/-- Both roles resolved, grounding first. -/
def team (r : Registry) : Except Fault Team := do
  let grounding ← r.resolve .grounding
  let selection ← r.resolve .selection
  .ok { grounding, selection }

def Team.get (t : Team) : Role → Provider × Chat.Call
  | .grounding => t.grounding
  | .selection => t.selection

end Registry
end Pinpoint
