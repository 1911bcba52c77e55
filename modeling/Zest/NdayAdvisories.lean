import Zest.CanonicalJson
import Zest.ExperimentOptions
import Zest.Fallible

/-! # Advisories for an observed version

An advisory names a technology and the ranges of its versions that are affected.
A range is a list of clauses, each of which compares the observed version with a
bound.  Versions are tuples of numbers and are compared as Python compares
tuples: the first difference decides, and a proper prefix comes first.

Python's `str.lower`, `str.isdigit` and `int` are parameters, and so is SHA-256.
-/
namespace Zest.Nday

open ResearchSelection (Name requireText)

/-- `ObservedTechVersion`. -/
structure ObservedTechVersion where
  technology : Name
  version : Name
  canonicalKey : Name
  scopeClassification : Name
  sourceRef : Name
  deriving DecidableEq

/-- `NDayAdvisory`. -/
structure NDayAdvisory where
  advisoryId : Name
  cveId : Name
  cveId_prefix : cveId.val.startsWith "CVE-".toList = true
  technology : Name
  affectedRanges : List Name
  affectedRanges_ne : affectedRanges ≠ []
  reference : Name
  deriving DecidableEq

/-- A SHA-256 as a hex digest. -/
abbrev HexDigest := {s : Text // s.length = 64}

/-- `NDayAdvisoryMatch`. -/
structure NDayAdvisoryMatch where
  laneVersion : Text
  observed : ObservedTechVersion
  advisory : NDayAdvisory
  matchFingerprint : HexDigest
  relation : Text
  reasonCodes : List Text

/-- What is raised: an error of the lane, or the `ValueError` of `int`. -/
inductive Raised where
  | researchInput (message : String)
  | value
  deriving DecidableEq, Repr

/-! ## Versions -/

/-- `_require_text`, of a text. -/
def text (value : Text) (fieldName : String) : Except Raised Name :=
  (requireText value fieldName).mapError .researchInput

section Versions

variable (isDigit : Text → Bool) (int : Text → Option Nat)

/-- The body of the loop over the parts of a version. -/
def parsePart (part : Text) : Except Raised Nat :=
  if isDigit part then
    match int part with
    | some n => .ok n
    | none => .error .value
  else .error (.researchInput "version must use numeric dot-separated parts")

/-- `_parse_version`. -/
def parseVersion (value : Text) : Except Raised (List Nat) := do
  let version ← text value "version"
  let parsed ← (version.val.splitOn '.').mapM (parsePart isDigit int)
  return parsed ++ List.replicate (3 - parsed.length) 0

/-- `v < w`, of tuples of numbers. -/
def tupleLt : List Nat → List Nat → Bool
  | _, [] => false
  | [], _ :: _ => true
  | x :: v, y :: w => x < y || (x = y && tupleLt v w)

/-! ## Clauses and ranges -/

/-- The operators of a clause. -/
inductive Comparison where
  | atLeast
  | above
  | atMost
  | below
  | equal
  deriving DecidableEq, Repr

/-- The version is not rejected by the clause. -/
def Comparison.holds (version bound : List Nat) : Comparison → Bool
  | .atLeast => !tupleLt version bound
  | .above => tupleLt bound version
  | .atMost => !tupleLt bound version
  | .below => tupleLt version bound
  | .equal => version = bound

/-- The operator of a clause and its bound. -/
def readClause (clause : Text) : Except Raised (Comparison × List Nat) :=
  if clause.startsWith ">=".toList then
    (Comparison.atLeast, ·) <$> parseVersion isDigit int (clause.drop 2)
  else if clause.startsWith ">".toList then
    (Comparison.above, ·) <$> parseVersion isDigit int (clause.drop 1)
  else if clause.startsWith "<=".toList then
    (Comparison.atMost, ·) <$> parseVersion isDigit int (clause.drop 2)
  else if clause.startsWith "<".toList then
    (Comparison.below, ·) <$> parseVersion isDigit int (clause.drop 1)
  else if clause.startsWith "=".toList then
    (Comparison.equal, ·) <$> parseVersion isDigit int (clause.drop 1)
  else .error (.researchInput "range clause must start with >=, >, <=, <, or =")

/-- The loop of `_range_matches`: the first clause that rejects ends it. -/
def clausesHold (version : List Nat) : List Name → Except Raised Bool
  | [] => .ok true
  | clause :: clauses => do
    let (comparison, bound) ← readClause isDigit int clause.val
    if comparison.holds version bound then clausesHold version clauses else return false

/-- `_range_matches`. -/
def rangeMatches (version : List Nat) (spec : Text) : Except Raised Bool := do
  let clauses ← (spec.splitOn ',').mapM fun item => text item "range_clause"
  clausesHold isDigit int version clauses

/-- `any(_range_matches(version, spec) for spec in affected_ranges)`. -/
def anyRangeMatches (version : List Nat) : List Name → Except Raised Bool
  | [] => .ok false
  | spec :: specs => do
    if ← rangeMatches isDigit int version spec.val then return true
    else anyRangeMatches version specs

end Versions

/-! ## Advisories -/

/-- `value.split()`. -/
def words (s : Text) : List Text := (s.splitOnP Text.isSpace).filter (· ≠ [])

/-- `_normalize`. -/
def normalize (lower : Text → Text) (value : Text) : Text :=
  [' '].intercalate
    (words (((lower value).map fun c => if c = '_' then ' ' else c).map fun c =>
      if c = '-' then ' ' else c))

/-- `NDAY_LANE_VERSION`. -/
def ndayLaneVersion : Text := "nday.version_match.v1".toList

/-- `_match_fingerprint`. -/
def matchFingerprint (lower : Text → Text) (sha256 : Text → HexDigest)
    (observed : ObservedTechVersion) (advisory : NDayAdvisory) : HexDigest :=
  sha256 (CanonicalJson.dumps
    [("lane_version".toList, ndayLaneVersion),
      ("technology".toList, normalize lower observed.technology.val),
      ("version".toList, observed.version.val),
      ("canonical_key".toList, observed.canonicalKey.val),
      ("advisory_id".toList, advisory.advisoryId.val),
      ("cve_id".toList, advisory.cveId.val)])

/-- The match of an advisory. -/
def advisoryMatch (lower : Text → Text) (sha256 : Text → HexDigest)
    (observed : ObservedTechVersion) (advisory : NDayAdvisory) : NDayAdvisoryMatch where
  laneVersion := ndayLaneVersion
  observed := observed
  advisory := advisory
  matchFingerprint := matchFingerprint lower sha256 observed advisory
  relation := "AFFECTED_VERSION_CANDIDATE".toList
  reasonCodes :=
    ["TECHNOLOGY_VERSION_IN_ADVISORY_RANGE".toList, "N_DAY_MATCH_IS_NOT_A_FINDING".toList]

/-- The technologies agree up to their normalisation. -/
def sameTechnology (lower : Text → Text) (observed : ObservedTechVersion)
    (advisory : NDayAdvisory) : Bool :=
  normalize lower advisory.technology.val = normalize lower observed.technology.val

section Match

variable (lower : Text → Text) (isDigit : Text → Bool) (int : Text → Option Nat)
  (sha256 : Text → HexDigest)

/-- The loop of `match_nday_advisories`. -/
def matchAll (observed : ObservedTechVersion) (version : List Nat) :
    List NDayAdvisory → Except Raised (List NDayAdvisoryMatch)
  | [] => .ok []
  | advisory :: advisories =>
    if sameTechnology lower observed advisory = false then matchAll observed version advisories
    else do
      let affected ← anyRangeMatches isDigit int version advisory.affectedRanges
      let later ← matchAll observed version advisories
      return if affected then advisoryMatch lower sha256 observed advisory :: later else later

/-- `match_nday_advisories`. -/
def matchNdayAdvisories (observed : ObservedTechVersion) (advisories : List NDayAdvisory) :
    Except Raised (List NDayAdvisoryMatch) :=
  if observed.scopeClassification.val ≠ "IN_SCOPE".toList then .ok []
  else do
    let version ← parseVersion isDigit int observed.version.val
    matchAll lower isDigit int sha256 observed version advisories

end Match
end Zest.Nday
