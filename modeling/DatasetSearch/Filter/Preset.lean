import DatasetSearch.Sql.Allowlist
import DatasetSearch.Sql.Scalar

/-!
# Contract presets

Filter keys for contract data that do not name a column but stand for a condition on fixed columns.
A preset yields nothing when a column it needs is not allowed or its value does not fit.
-/

namespace DatasetSearch.Filter

open Sql

/-! ### The columns of contract data -/

namespace ContractColumn

/-- The kind of contract. -/
def type : String := "TYPE"

/-- The identifier of the award in the execution data. -/
def awardId : String := "AWARD_ID_PIID"

def awardAmount : String := "AWARD$"

def agency : String := "Department/Ind.Agency"

def industryNumber : String := "NAICSCODE"

def industryText : String := "NAICS_CODE"

/-- The contractor. -/
def awardee : String := "AWARDEE"

def productOrService : String := "PRODUCT_OR_SERVICE_CODE"

def awardNumber : String := "AWARDNUMBER"

def awardDate : String := "AWARDDATE"

end ContractColumn

/-! ### The presets and their conditions -/

/-- A filter key with a meaning of its own. -/
inductive Preset where
  | contractType
  | hasExecutionData
  | minAwardAmount
  | maxAwardAmount
  | agency
  | naicsCode
  | awardee
  | pscCode
  | awardId
  | awardDateStart
  | awardDateEnd
deriving DecidableEq, Repr

namespace Preset

/-- All presets in the order in which their conditions appear. -/
def all : List Preset :=
  [.contractType, .hasExecutionData, .minAwardAmount, .maxAwardAmount, .agency, .naicsCode,
    .awardee, .pscCode, .awardId, .awardDateStart, .awardDateEnd]

def key : Preset → String
  | .contractType => "contract_type"
  | .hasExecutionData => "has_execution_data"
  | .minAwardAmount => "min_award_amount"
  | .maxAwardAmount => "max_award_amount"
  | .agency => "agency"
  | .naicsCode => "naics_code"
  | .awardee => "awardee"
  | .pscCode => "psc_code"
  | .awardId => "award_id"
  | .awardDateStart => "award_date_start"
  | .awardDateEnd => "award_date_end"

def ofKey? (name : String) : Option Preset := all.find? (·.key == name)

/-- The columns that must all be allowed. -/
def required : Preset → List String
  | .contractType => [ContractColumn.type]
  | .hasExecutionData => [ContractColumn.awardId]
  | .minAwardAmount | .maxAwardAmount => [ContractColumn.awardAmount]
  | .agency => [ContractColumn.agency]
  | .naicsCode => []
  | .awardee => [ContractColumn.awardee]
  | .pscCode => [ContractColumn.productOrService]
  | .awardId => [ContractColumn.awardNumber, ContractColumn.awardId]
  | .awardDateStart | .awardDateEnd => [ContractColumn.awardDate]

def containing (column text : String) : Atom := .like column (.containing text)

def compared? (column : String) (op : Comparison) (value : Json) : Option Condition :=
  (operand? value).map (fun operand => .atom (.compare column op operand))

/-- A column that contains the non-empty text of a scalar. -/
def containing? (column : String) (value : Json) : Option Condition :=
  (nonEmptyText? value).map (fun text => .atom (containing column text))

/-- A date column compared with the non-empty text of a scalar. -/
def dated? (op : Comparison) (value : Json) : Option Condition :=
  (nonEmptyText? value).map
    (fun text => .atom (.compare ContractColumn.awardDate op (.text text)))

/-- The condition on the industry code: digits are compared with the number column and any text is
looked for in the text column, whichever of the two is allowed. -/
def industry? (value : Json) (allowlist : Allowlist) : Option Condition :=
  match nonEmptyText? value with
  | none => none
  | some text =>
    let byNumber := text.toList.all Char.isDigit && allowlist.contains ContractColumn.industryNumber
    let byText := allowlist.contains ContractColumn.industryText
    let number := Atom.compare ContractColumn.industryNumber .eq (.digits text)
    let mention := containing ContractColumn.industryText text
    match byNumber, byText with
    | true, true => some (.pair .or number mention)
    | true, false => some (.atom number)
    | false, true => some (.atom mention)
    | false, false => none

/-- The condition on the execution data: present, or null or empty. -/
def execution? : Json → Option Condition
  | .bool true =>
    some (.pair .and (.isNotNull ContractColumn.awardId) (.textIsNotEmpty ContractColumn.awardId))
  | .bool false =>
    some (.pair .or (.isNull ContractColumn.awardId) (.textIsEmpty ContractColumn.awardId))
  | _ => none

def rule? (preset : Preset) (value : Json) (allowlist : Allowlist) : Option Condition :=
  match preset with
  | .contractType =>
    match value with
    | .array items => oneOf? ContractColumn.type items
    | _ => none
  | .hasExecutionData => execution? value
  | .minAwardAmount => compared? ContractColumn.awardAmount .ge value
  | .maxAwardAmount => compared? ContractColumn.awardAmount .le value
  | .agency => containing? ContractColumn.agency value
  | .naicsCode => industry? value allowlist
  | .awardee => containing? ContractColumn.awardee value
  | .pscCode => containing? ContractColumn.productOrService value
  | .awardId =>
    (nonEmptyText? value).map fun text =>
      .pair .or (containing ContractColumn.awardNumber text)
        (containing ContractColumn.awardId text)
  | .awardDateStart => dated? .ge value
  | .awardDateEnd => dated? .le value

def condition? (preset : Preset) (value : Json) (allowlist : Allowlist) : Option Condition :=
  if preset.required.all allowlist.contains then preset.rule? value allowlist else none

end Preset

end DatasetSearch.Filter
