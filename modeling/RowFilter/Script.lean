import RowFilter.Filter

/-! # Scripts

A script is the construction of a filter written down: which parts to build, and by which operation.
`build` carries it out, the parts before the whole and from left to right, and stops at the first
refusal. -/

set_option autoImplicit false

namespace RowFilter

inductive Script where
  | test (column : Column) (asked : Test)
  | condition (left : Column) (comparator : Comparator) (right : RightSide)
  | join (connective : Connective) (left right : Script)
  | joinParts (connective : Connective) (left right : Option Script)
  | combine (connective : Connective) (parts : List Script)

namespace Script

mutual

def build : Script → Except FilterError Filter
  | test column asked => .ok (column.asks asked)
  | condition left comparator right => do
    let built ← Condition.ofParts? left comparator right
    .ok (.leaf built)
  | join connective left right => do
    let left ← build left
    let right ← build right
    .ok (.join connective left right)
  | joinParts connective left right => do
    let left ← buildPart left
    let right ← buildPart right
    Filter.joinParts connective left right
  | combine connective parts => do
    let parts ← buildAll parts
    Filter.combine connective parts

def buildPart : Option Script → Except FilterError (Option Filter)
  | none => .ok none
  | some part => do
    let part ← build part
    .ok (some part)

def buildAll : List Script → Except FilterError (List Filter)
  | [] => .ok []
  | first :: rest => do
    let first ← build first
    let rest ← buildAll rest
    .ok (first :: rest)

end

end Script

end RowFilter
