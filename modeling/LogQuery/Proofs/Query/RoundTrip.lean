import LogQuery.Query.Reader
import LogQuery.Query.Writer

/-!
# Written Queries Read Back

Every query can be read back from its JSON form, whatever it holds. Reading
does not ask whether a query makes sense, so nothing has to be assumed here:
names and patterns may be empty or malformed, a constant may be absent, and
branches may be nested and empty in any way.

The reader carries the place that it has reached, and the writer knows nothing
of places. So each statement is about every place at once, and the induction is
on the operations, whose parts are read at places further down. For an
operation the reader is first brought into the shape that the writer has, one
reading for each part; the parts themselves are then read back by induction.

The checks of the reader that have no counterpart in the writer all succeed by
computation: the objects that are written have one key where one is expected,
none but the allowed keys elsewhere, and no key twice.

## Theorems

* `readExpression_toJson`: A written expression reads back.
* `readCondition_toJson`: A written condition reads back.
* `readOperation_branch`, `readOperation_set`, `readOperation_colorBy`: How the
  parts of a written operation are read.
* `readOperation_toJson`, `readOperations_listToJson`: Written operations read
  back.
* `ofJson_toJson`: A written query reads back.
-/

namespace LogQuery

open QueryReader

theorem readExpression_toJson (place : Path) (e : Expression) :
    readExpression place e.toJson = .ok e := by
  cases e with
  | record => rfl
  | var name => rfl
  | lastVarValue name => rfl
  | field name => rfl
  | constant value =>
      -- A value is not written as an array or an object, so it is a constant.
      cases value with
      | absent => rfl
      | boolean value => rfl
      | number value => rfl
      | string value => rfl

theorem readCondition_toJson (place : Path) (c : Condition) :
    readCondition place c.toJson = .ok c := by
  have hparts : readCondition place c.toJson =
      readExpression ((place.child "match").child "expression") c.expression.toJson >>= fun e =>
        .ok ⟨e, c.pattern⟩ := rfl
  rw [hparts, readExpression_toJson]
  rfl

theorem readOperation_branch (place : Path) (c : Condition) (thenOps elseOps : List Operation) :
    readOperation place (Operation.branch c thenOps elseOps).toJson =
      readCondition ((place.child "if").child "condition") c.toJson >>= fun c =>
      readOperations ((place.child "if").child "then") 0 (Operation.listToJson thenOps) >>=
        fun thenOps =>
      readOperations ((place.child "if").child "else") 0 (Operation.listToJson elseOps) >>=
        fun elseOps => .ok (.branch c thenOps elseOps) := by
  rw [Operation.toJson, readOperation]
  simp only [readIf, readBranch, readBranchBody]
  rfl

theorem readOperation_set (place : Path) (target : String) (e : Expression) :
    readOperation place (Operation.set target e).toJson =
      readExpression ((place.child "set").child "expression") e.toJson >>= fun e =>
        .ok (.set target e) := by
  rw [Operation.toJson, readOperation]
  rfl

theorem readOperation_colorBy (place : Path) (e : Expression) :
    readOperation place (Operation.colorBy e).toJson =
      (readExpression (place.child "colorBy") e.toJson).map .colorBy := by
  rw [Operation.toJson, readOperation]
  rfl

theorem readOperation_skipRecord (place : Path) :
    readOperation place Operation.skipRecord.toJson = .ok .skipRecord := by
  rw [Operation.toJson, readOperation]
  rfl

mutual

theorem readOperation_toJson (place : Path) :
    ∀ op : Operation, readOperation place op.toJson = .ok op
  | .branch c thenOps elseOps => by
      rw [readOperation_branch, readCondition_toJson,
        readOperations_listToJson ((place.child "if").child "then") 0 thenOps,
        readOperations_listToJson ((place.child "if").child "else") 0 elseOps]
      rfl
  | .set target e => by
      rw [readOperation_set, readExpression_toJson]
      rfl
  | .colorBy e => by
      rw [readOperation_colorBy, readExpression_toJson]
      rfl
  | .skipRecord => readOperation_skipRecord place

theorem readOperations_listToJson (place : Path) (i : Nat) :
    ∀ ops : List Operation, readOperations place i (Operation.listToJson ops) = .ok ops
  | [] => by
      rw [Operation.listToJson, readOperations]
  | op :: rest => by
      rw [Operation.listToJson, readOperations, readOperation_toJson (place.element i) op,
        readOperations_listToJson place (i + 1) rest]
      rfl

end

/-- A query that has been written reads back as it was, constructor by
    constructor. -/
theorem Query.ofJson_toJson (q : Query) : Query.ofJson q.toJson = .ok q := by
  have hparts : Query.ofJson q.toJson =
      readOperations [.key "operations"] 0 (Operation.listToJson q.operations) >>= fun ops =>
        .ok ⟨ops⟩ := rfl
  rw [hparts, readOperations_listToJson]
  rfl

end LogQuery
