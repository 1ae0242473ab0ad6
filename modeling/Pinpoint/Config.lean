import Pinpoint.Settings
import Pinpoint.Toml.Document
import Pinpoint.Fault
/-!
# Config — providers, roles and settings as a text

A configuration names the providers of models, says which of them answers which kind of question, and tunes the search.  The
table of providers must be there; a role that is missing falls back to the active provider, a setting to its default.
Fields that mean nothing here are passed over.

Every record is read by one function and written by another, field for field under the same names.
-/
namespace Pinpoint

/-- Where a provider is reached, and the model it answers with when nothing else is said. -/
structure ProviderEntry where
  displayName : String
  apiBase     : String
  model       : String
  temperature : Float := 0.1
  apiKey      : Option String := none
  deriving Repr, Inhabited

/-- The provider and model of a role. -/
structure RoleEntry where
  provider    : String
  model       : String
  /-- Where it is missing, that of the provider counts. -/
  temperature : Option Float
  deriving Repr, Inhabited

structure Config where
  active    : String := ""
  providers : List (String × ProviderEntry) := []
  grounding : Option RoleEntry := none
  selection : Option RoleEntry := none
  locator   : LocatorSettings Float32 Float := {}

namespace Config

open Toml (required? optional? maybe? nat? float? narrow?)

/-! ## Settings -/

def groundingNames : List String :=
  ["votes", "cluster_iou_threshold", "cluster_min_points", "coordinate_scale", "max_image_side", "max_image_pixels"]

def readGrounding? (t : Toml) : Option (GroundingSettings Float) :=
  match t.record? groundingNames 0 with
  | some [votes, iou, minPoints, scale, maxSide, maxPixels] => do
    let d : GroundingSettings Float := {}
    some ⟨← optional? (nat? UInt64.size) d.votes votes, ← optional? float? d.iou iou,
      ← optional? (nat? UInt64.size) d.minPoints minPoints, ← optional? float? d.scale scale,
      ← optional? (nat? UInt32.size) d.maxSide maxSide, ← optional? (nat? UInt64.size) d.maxPixels maxPixels⟩
  | _ => none

def writeGrounding (s : GroundingSettings Float) : Toml :=
  .table (groundingNames.zip
    [.int s.votes, .float s.iou, .int s.minPoints, .float s.scale, .int s.maxSide, .int s.maxPixels])

def featureNames : List String :=
  ["max_keypoints", "fast_threshold", "ratio", "cluster_radius_factor", "min_cluster_matches", "ransac_iterations",
    "reprojection_threshold", "size_tolerance", "seed"]

def readFeature? (t : Toml) : Option (FeatureSettings Float32 Float) :=
  match t.record? featureNames 0 with
  | some [maxKeypoints, fastThreshold, ratio, clusterRadius, minMatches, iterations, reprojection, sizeTolerance, seed] => do
    let d : FeatureSettings Float32 Float := {}
    some ⟨← optional? (nat? UInt64.size) d.maxKeypoints maxKeypoints, ← optional? (nat? 256) d.fastThreshold fastThreshold,
      ← optional? narrow? d.ratio ratio, ← optional? float? d.clusterRadius clusterRadius,
      ← optional? (nat? UInt64.size) d.minMatches minMatches, ← optional? (nat? UInt64.size) d.iterations iterations,
      ← optional? float? d.reprojection reprojection, ← optional? float? d.sizeTolerance sizeTolerance,
      ← optional? (fun t => (nat? UInt64.size t).map UInt64.ofNat) d.seed seed⟩
  | _ => none

def writeFeature (s : FeatureSettings Float32 Float) : Toml :=
  .table (featureNames.zip [.int s.maxKeypoints, .int s.fastThreshold, .float s.ratio.toFloat, .float s.clusterRadius,
    .int s.minMatches, .int s.iterations, .float s.reprojection, .float s.sizeTolerance, .int s.seed.toNat])

def templateNames : List String := ["threshold", "max_matches", "coarse_scale", "min_coarse_side"]

def readTemplate? (t : Toml) : Option (TemplateSettings Float32 Float) :=
  match t.record? templateNames 0 with
  | some [threshold, maxMatches, coarseScale, minCoarseSide] => do
    let d : TemplateSettings Float32 Float := {}
    some ⟨← optional? narrow? d.threshold threshold, ← optional? (nat? UInt64.size) d.maxMatches maxMatches,
      ← optional? float? d.coarseScale coarseScale, ← optional? (nat? UInt32.size) d.minCoarseSide minCoarseSide⟩
  | _ => none

def writeTemplate (s : TemplateSettings Float32 Float) : Toml :=
  .table (templateNames.zip
    [.float s.threshold.toFloat, .int s.maxMatches, .float s.coarseScale, .int s.minCoarseSide])

def quorumNames : List String := ["votes", "label_length", "label_retry_limit"]

def readQuorum? (t : Toml) : Option QuorumSettings :=
  match t.record? quorumNames 0 with
  | some [votes, labelLength, retryLimit] => do
    let d : QuorumSettings := {}
    some ⟨← optional? (nat? UInt64.size) d.votes votes, ← optional? (nat? UInt64.size) d.labelLength labelLength,
      ← optional? (nat? UInt64.size) d.retryLimit retryLimit⟩
  | _ => none

def writeQuorum (s : QuorumSettings) : Toml :=
  .table (quorumNames.zip [.int s.votes, .int s.labelLength, .int s.retryLimit])

def zoomNames : List String := ["element_margin", "max_upscale", "algorithmic_in_zoom", "algorithmic_before_zoom"]

def readZoom? (t : Toml) : Option (ZoomSettings Float) :=
  match t.record? zoomNames 0 with
  | some [margin, maxUpscale, matchInside, matchBefore] => do
    let d : ZoomSettings Float := {}
    some ⟨← optional? float? d.margin margin, ← optional? float? d.maxUpscale maxUpscale,
      ← optional? Toml.bool? d.matchInside matchInside, ← optional? Toml.bool? d.matchBefore matchBefore⟩
  | _ => none

def writeZoom (s : ZoomSettings Float) : Toml :=
  .table (zoomNames.zip [.float s.margin, .float s.maxUpscale, .bool s.matchInside, .bool s.matchBefore])

def locatorNames : List String := ["grounding", "feature", "template", "quorum", "zoom"]

def readLocator? (t : Toml) : Option (LocatorSettings Float32 Float) :=
  match t.record? locatorNames 0 with
  | some [grounding, feature, template, quorum, zoom] => do
    some ⟨← optional? readGrounding? {} grounding, ← optional? readFeature? {} feature,
      ← optional? readTemplate? {} template, ← optional? readQuorum? {} quorum, ← optional? readZoom? {} zoom⟩
  | _ => none

def writeLocator (s : LocatorSettings Float32 Float) : Toml :=
  .table (locatorNames.zip [writeGrounding s.grounding, writeFeature s.feature, writeTemplate s.template,
    writeQuorum s.quorum, writeZoom s.zoom])

/-! ## Providers and roles -/

def readProvider? (t : Toml) : Option ProviderEntry :=
  match t.record? ["display_name", "api_base", "model", "temperature", "api_key"] 0 with
  | some [displayName, apiBase, model, temperature, apiKey] => do
    some ⟨← required? Toml.str? displayName, ← required? Toml.str? apiBase, ← required? Toml.str? model,
      ← optional? float? 0.1 temperature, ← maybe? Toml.str? apiKey⟩
  | _ => none

def writeProvider (p : ProviderEntry) : Toml :=
  .table ([("display_name", .str p.displayName), ("api_base", .str p.apiBase), ("model", .str p.model),
    ("temperature", .float p.temperature)] ++ (p.apiKey.map fun k => ("api_key", Toml.str k)).toList)

def readProviders? : Toml → Option (List (String × ProviderEntry))
  | .table l => l.mapM fun f => (readProvider? f.2).map fun p => (f.1, p)
  | _        => none

def readRole? (t : Toml) : Option RoleEntry :=
  match t.record? ["provider", "model", "temperature"] 3 with
  | some [provider, model, temperature] => do
    some ⟨← required? Toml.str? provider, ← required? Toml.str? model, ← maybe? float? temperature⟩
  | _ => none

def writeRole (r : RoleEntry) : Toml :=
  .table ([("provider", .str r.provider), ("model", .str r.model)] ++
    (r.temperature.map fun v => ("temperature", Toml.float v)).toList)

def readRoles? (t : Toml) : Option (Option RoleEntry × Option RoleEntry) :=
  match t.record? ["grounding", "selection"] 2 with
  | some [grounding, selection] => do
    some (← maybe? readRole? grounding, ← maybe? readRole? selection)
  | _ => none

def writeRoles (c : Config) : Toml :=
  .table ((c.grounding.map fun r => ("grounding", writeRole r)).toList ++
    (c.selection.map fun r => ("selection", writeRole r)).toList)

/-! ## The whole -/

/-- Who answers: everything but the settings of the search. -/
def readModels? (t : Toml) : Option Config :=
  match t.record? ["active_provider", "providers", "roles"] 0 with
  | some [active, providers, roles] => do
    let active ← required? Toml.str? active
    let providers ← required? readProviders? providers
    let (grounding, selection) ← optional? readRoles? (none, none) roles
    some { active, providers, grounding, selection }
  | _ => none

def ofToml? (t : Toml) : Option Config :=
  match t.record? ["llm", "locator"] 0 with
  | some [models, locator] => do
    let c ← required? readModels? models
    some { c with locator := ← optional? readLocator? {} locator }
  | _ => none

def toToml (c : Config) : Toml :=
  .table [("llm", .table [("active_provider", .str c.active),
      ("providers", .table (c.providers.map fun p => (p.1, writeProvider p.2))), ("roles", writeRoles c)]),
    ("locator", writeLocator c.locator)]

/-- **The configuration of a text.** -/
def ofText (s : String) : Except Fault Config :=
  match (Toml.parse? s).bind ofToml? with
  | some c => .ok c
  | none   => .error (.tomlRead "not a configuration")

def toText (c : Config) : String := c.toToml.toText

end Config
end Pinpoint
