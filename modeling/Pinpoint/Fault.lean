/-!
# Fault — why a call did not answer

One constructor for each cause.  `Fault.message` is the text a caller sees; the causes that come from reading foreign
text or files carry the reader's own words.  Two faults are fatal: they end a fan-out of votes at once, every other
fault only costs the vote that met it.
-/
namespace Pinpoint

inductive Fault where
  | config          (text : String)
  | provider        (text : String)
  | invalidResponse (text : String)
  | nonRetryable    (text : String)
  | perception      (text : String)
  | matching        (text : String)
  | repository      (text : String)
  | invalidInput    (text : String)
  | io              (text : String)
  | json            (text : String)
  | http            (text : String)
  | image           (text : String)
  | tomlRead        (text : String)
  | tomlWrite       (text : String)
  | interrupted
  deriving DecidableEq, Repr, Inhabited

namespace Fault

def message : Fault → String
  | config t          => "Configuration error: " ++ t
  | provider t        => "LLM provider error: " ++ t
  | invalidResponse t => "Invalid model response: " ++ t
  | nonRetryable t    => "Non-retryable model failure: " ++ t
  | perception t      => "Perception error: " ++ t
  | matching t        => "Matching error: " ++ t
  | repository t      => "Repository error: " ++ t
  | invalidInput t    => "Invalid input: " ++ t
  | io t              => "IO error: " ++ t
  | json t            => "JSON error: " ++ t
  | http t            => "HTTP error: " ++ t
  | image t           => "Image error: " ++ t
  | tomlRead t        => "TOML deserialize error: " ++ t
  | tomlWrite t       => "TOML serialize error: " ++ t
  | interrupted       => "Detection interrupted"

/-- A fatal fault ends the fan-out that meets it. -/
def isFatal : Fault → Bool
  | interrupted | nonRetryable _ => true
  | _                            => false

end Fault
end Pinpoint
