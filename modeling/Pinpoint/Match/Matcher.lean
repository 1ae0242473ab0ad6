import Pinpoint.Fanout
import Pinpoint.Match.Template
import Pinpoint.Match.Feature
/-!
# Matcher — both kinds of matching side by side

Features and template are looked for at the same time, as two tasks of a fan-out.  A picture without pixels makes either
task fail, which only costs its contribution.
-/
namespace Pinpoint
namespace Match

/-- What matching proposes. -/
structure Matched (ν : Type) where
  feature     : FeatureSignal
  template    : TemplateSignal ν
  interrupted : Bool

namespace Matched

variable {ν : Type}

def nothing : Matched ν := ⟨⟨[], []⟩, ⟨[], []⟩, false⟩

def any (m : Matched ν) : Bool := !m.feature.boxes.isEmpty || !m.template.boxes.isEmpty

end Matched

/-- The answer of one of the two tasks. -/
inductive Signal (ν : Type) where
  | feature (s : FeatureSignal)
  | template (s : TemplateSignal ν)

def checkSizes (whole reference : Picture) : Except Fault Unit :=
  if whole.isEmpty || reference.isEmpty then
    .error (.matching s!"empty image: screen {whole.width}x{whole.height}, reference {reference.width}x{reference.height}")
  else .ok ()

variable {ν ω : Type} [Scalar ν] [Scalar ω] [Widening ν ω]

def taskEnd {β : Type} : Except Fault β → TaskEnd β
  | .ok v    => .value v
  | .error e => .fault e

@[specialize]
def featureTask (c : FeatureSettings ν ω) (whole reference : Picture) : TaskEnd (Signal ν) :=
  taskEnd ((checkSizes whole reference).map fun _ => .feature (findFeatures c whole reference))

@[specialize]
def templateTask (c : TemplateSettings ν ω) (whole reference : Picture) : TaskEnd (Signal ν) :=
  taskEnd ((checkSizes whole reference).map fun _ => .template (findTemplate c whole reference))

def place (m : Matched ν) : Signal ν → Matched ν
  | .feature s  => { m with feature := s }
  | .template s => { m with template := s }

/-- What the joined tasks propose together. -/
def ofJoins (j : Joins (Signal ν)) : Except Fault (Matched ν) :=
  (Harvest.collect j).map fun h => { h.values.foldl place Matched.nothing with interrupted := h.interrupted }

/-- **Both matchings of a reference in a picture**; under a stop request neither is joined. -/
@[specialize]
def detect (f : FeatureSettings ν ω) (t : TemplateSettings ν ω) (stop : Bool) (whole reference : Picture) :
    Except Fault (Matched ν) :=
  if stop then ofJoins (Joins.ofEnds true [])
  else ofJoins (Joins.ofEnds false [featureTask f whole reference, templateTask t whole reference])

end Match
end Pinpoint
