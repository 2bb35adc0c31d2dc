/-
  Polis.Llm.Settings — what a language-model call is made of
  (`llm/purposes.py`, `llm/providers/base.py`, `config/settings.py`,
  `config/canon.py`).

  Money is exact: a Decimal is its value, and `decimalText` writes it.  A
  floating-point number is the text JSON writes for it.
-/
import Mathlib.Algebra.Order.Ring.Rat
import Polis.Events.Canon
import Polis.Kernel.Clock
import Polis.Lib.Dict

namespace Polis.Llm

open Lib.Bytes
open Lib (Dict)
open Polis.Events (Sha256 hex jsonString sortedMembers)

/-- What a call can raise. -/
inductive LlmError where
  | config (message : String)
  | cacheRenderMismatch (key : String)
  | cacheMissInReplay (key : String)
  | cacheVersionMismatch (message : String)
  | key (key : String)
  | runtime (message : String)
  | value (message : String)
  | provider (message : String)
  deriving Repr, DecidableEq

/-! ## JSON values -/

/-- A value a prompt variable, a schema or a reply holds.  `other` is one
that `json.dumps` refuses. -/
inductive Json where
  | none
  | bool (b : Bool)
  | int (n : Int)
  | float (text : String)
  | str (s : String)
  | list (xs : List Json)
  | dict (xs : List (String × Json))
  | other (complaint : String)

namespace Json

/-- `bool(value)`. -/
def truthy : Json → Bool
  | none => false
  | bool b => b
  | int n => n ≠ 0
  | float text => text ≠ "0.0" ∧ text ≠ "-0.0"
  | str s => s ≠ ""
  | list xs => !xs.isEmpty
  | dict xs => !xs.isEmpty
  | other _ => true

/-- An optional string: `None` or the text. -/
def ofStr? : Option String → Json
  | some s => str s
  | Option.none => none

mutual

/-- What `json.dumps` refuses in a value. -/
def complaints : Json → List String
  | list xs => itemComplaints xs
  | dict xs => memberComplaints xs
  | other complaint => [complaint]
  | _ => []

def itemComplaints : List Json → List String
  | [] => []
  | x :: xs => x.complaints ++ itemComplaints xs

def memberComplaints : List (String × Json) → List String
  | [] => []
  | (_, x) :: xs => x.complaints ++ memberComplaints xs

end

mutual

/-- `json.dumps` with sorted keys and no blanks. -/
def text : Json → String
  | none => "null"
  | bool true => "true"
  | bool false => "false"
  | int n => toString n
  | float text => text
  | str s => jsonString s
  | list xs => "[" ++ String.intercalate "," (itemTexts xs) ++ "]"
  | dict xs => "\x7b" ++ String.intercalate "," (sortedMembers (memberTexts xs)) ++ "\x7d"
  | other _ => ""

def itemTexts : List Json → List String
  | [] => []
  | x :: xs => x.text :: itemTexts xs

def memberTexts : List (String × Json) → List (String × String)
  | [] => []
  | (k, x) :: xs => (k, x.text) :: memberTexts xs

end

end Json

/-- `canonical_json`. -/
def canonicalJson (obj : Json) : Except LlmError String :=
  match obj.complaints with
  | [] => .ok obj.text
  | complaint :: _ => .error (.config ("value is not canonical JSON: " ++ complaint))

/-- `canonical_bytes`. -/
def canonicalBytes (obj : Json) : Except LlmError ByteString := (canonicalJson obj).map utf8

/-- `sha256_hex`. -/
def sha256Hex [Sha256] (data : ByteString) : String := hex (Sha256.digest data)

/-! ## Libraries -/

/-- What `json.loads` does with a text. -/
inductive Loaded where
  | value (v : Json)
  | decodeError (message : String)
  | raises (e : LlmError)

/-- The library code a call goes through. -/
class Host where
  /-- `str` of a value that is not a string. -/
  repr : Json → String
  /-- `str` of a Decimal. -/
  decimalText : Rat → String
  /-- `json.loads`. -/
  loads : String → Loaded
  /-- The messages of `Draft202012Validator(schema).iter_errors(value)`,
  sorted by their text. -/
  schemaErrors : Json → Json → Except LlmError (List String)

/-- `str(value)`. -/
def pyStr [Host] : Json → String
  | .str s => s
  | v => Host.repr v

/-! ## Purposes -/

/-- `Purpose`. -/
inductive Purpose where
  | deliberate | reflect | importance | postWrite | newsWrite | vcEval | judge | embed
  | simAwareCheck | summarise | creditEval
  deriving Repr, DecidableEq

/-- `purpose.value`. -/
def Purpose.value : Purpose → String
  | deliberate => "DELIBERATE"
  | reflect => "REFLECT"
  | importance => "IMPORTANCE"
  | postWrite => "POST_WRITE"
  | newsWrite => "NEWS_WRITE"
  | vcEval => "VC_EVAL"
  | judge => "JUDGE"
  | embed => "EMBED"
  | simAwareCheck => "SIM_AWARE_CHECK"
  | summarise => "SUMMARISE"
  | creditEval => "CREDIT_EVAL"

/-- `PURPOSE_LINE`. -/
def PURPOSE_LINE : Purpose → String
  | .deliberate | .reflect | .vcEval | .judge | .creditEval => "cognition"
  | .importance | .postWrite | .newsWrite | .simAwareCheck | .summarise => "ancillary"
  | .embed => "free"

/-! ## Settings -/

/-- `LLMBudgetLine`. -/
structure LLMBudgetLine where
  callsPerTick : Int
  tokensPerTick : Int
  deriving Repr, DecidableEq

inductive OnExhaustion where
  | degradeToReflex | halt
  deriving Repr, DecidableEq

/-- `LLMBudgetSettings`. -/
structure LLMBudgetSettings where
  lines : Dict String LLMBudgetLine
  usdPerRun : Rat := 60
  usdHaltMultiple : Rat := 12 / 10
  maxCallsPerRun : Option Int := none
  onExhaustion : OnExhaustion := .degradeToReflex

inductive Structured where
  | constrain | repair | none
  deriving Repr, DecidableEq

/-- `RouteSpec`. -/
structure RouteSpec where
  lane : String
  model : String
  temperature : String := "0.0"
  maxTokens : Int := 512
  structured : Structured := .repair
  template : String := ""

inductive LaneKind where
  | codexCli | grokCli | minimax | ollama | openaiCompat | stub
  deriving Repr, DecidableEq

/-- `LaneSettings`. -/
structure LaneSettings where
  kind : LaneKind
  timeoutS : String := "45.0"
  modelVersionPin : Option String := none
  priceInUsdPerMtok : Rat := 0
  priceOutUsdPerMtok : Rat := 0
  priceCachedInUsdPerMtok : Option Rat := none
  extra : List (String × Json) := []

inductive CacheMode where
  | live | replay | hybrid
  deriving Repr, DecidableEq

/-- `CacheSettings`. -/
structure CacheSettings where
  mode : CacheMode := .hybrid
  schemaVersion : Int := 1
  verifyRender : Bool := true
  strictVersion : Bool := true
  l0Entries : Nat := 50000

/-- `LLMSettings`. -/
structure LLMSettings where
  providers : Dict String LaneSettings
  budget : LLMBudgetSettings
  routing : Dict String RouteSpec
  cache : CacheSettings := {}

/-! ## Requests and responses -/

/-- `SamplingParams`. -/
structure SamplingParams where
  temperature : String
  topP : String := "1.0"
  maxTokens : Int := 512
  stop : List String := []
  seed : Option Nat := none

/-- `CompletionRequest`. -/
structure CompletionRequest where
  purpose : String
  system : String
  user : String
  schema : Option Json
  sampling : SamplingParams
  callSeed : Nat
  timeoutS : String

/-- `CompletionResponse`. -/
structure CompletionResponse where
  text : String
  tokensIn : Int
  tokensOut : Int
  tokensCachedIn : Int
  modelVersion : Option String
  providerRequestId : Option String
  latencyMs : Int
  finishReason : String
  deriving Repr, DecidableEq

end Polis.Llm
