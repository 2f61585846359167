import Scriptlet.Proofs.Run.Orderly
import Scriptlet.Value.Arithmetic
import Scriptlet.Value.Methods
import Scriptlet.Value.Order

/-!
# What data answers by itself

Properties, indexes, methods and operators of data are computed without a call. Their outcome is
`Inert`: no fault that only host code raises, and no host object.
-/

set_option autoImplicit false

namespace Scriptlet

variable {α β : Type}

/-- The outcome is no fault that only host code raises. -/
def Unraised (outcome : Except Fault α) : Prop :=
  ∀ fault, outcome = .error fault → fault.isRaised = false

/-- The outcome is data, or a fault that evaluation itself gives. -/
structure Inert (outcome : Except Fault Value) : Prop where
  unraised : Unraised outcome
  data : ∀ value, outcome = .ok value → value.objects = []

theorem unraised_ok (value : α) : Unraised (.ok value) := by
  rintro fault ⟨⟩

theorem unraised_error {fault : Fault} (own : fault.isRaised = false) :
    Unraised (α := α) (.error fault) := by
  rintro other ⟨⟩
  exact own

theorem Unraised.bind {outcome : Except Fault α} {next : α → Except Fault β}
    (first : Unraised outcome) (later : ∀ value, Unraised (next value)) :
    Unraised (outcome >>= next) := by
  cases outcome with
  | error fault =>
    rintro other ⟨⟩
    exact first fault rfl
  | ok value => exact later value

theorem inert_ok (data : Json) : Inert (.ok (.json data)) where
  unraised := unraised_ok _
  data := by
    rintro value ⟨⟩
    rfl

theorem inert_error {fault : Fault} (own : fault.isRaised = false) : Inert (.error fault) where
  unraised := unraised_error own
  data := by rintro value ⟨⟩

theorem Unraised.bind_inert {outcome : Except Fault α} {next : α → Except Fault Value}
    (first : Unraised outcome) (later : ∀ value, Inert (next value)) :
    Inert (outcome >>= next) where
  unraised := first.bind fun value => (later value).unraised
  data := by
    cases outcome with
    | error fault => rintro value ⟨⟩
    | ok value => exact (later value).data

/-! ## Arguments -/

theorem unraised_quantity (value : Value) : Unraised value.quantity := by
  unfold Value.quantity
  split
  · exact unraised_ok _
  · exact unraised_error rfl

theorem unraised_integerArgument (argument : Value) : Unraised argument.integerArgument := by
  unfold Value.integerArgument
  split
  · exact unraised_ok _
  · exact unraised_error rfl

theorem unraised_textArgument (argument : Value) : Unraised argument.textArgument := by
  unfold Value.textArgument
  split
  · exact unraised_ok _
  · exact unraised_error rfl

/-! ## Operators -/

theorem unraised_int64? (i : Int) : Unraised
    (match int64? i with
    | some result => .ok (.int result)
    | none => .error .overflow : Except Fault Quantity) := by
  split
  · exact unraised_ok _
  · exact unraised_error rfl

theorem unraised_ofDouble? (result : Option Double) : Unraised (Quantity.ofDouble? result) := by
  unfold Quantity.ofDouble?
  split
  · exact unraised_ok _
  · exact unraised_error rfl

theorem unraised_onInts (operation : Operation) (a b : Int64) :
    Unraised (operation.onInts a b) := by
  unfold Operation.onInts
  split
  · exact unraised_error rfl
  · split
    · exact unraised_ok _
    · exact unraised_error rfl

theorem unraised_apply (operation : Operation) (x y : Quantity) :
    Unraised (x.apply operation y) := by
  unfold Quantity.apply
  split
  · exact unraised_onInts operation _ _
  · split
    · exact unraised_error rfl
    · exact unraised_ofDouble? _

theorem unraised_negate (q : Quantity) : Unraised q.negate := by
  cases q with
  | int a => exact unraised_int64? _
  | double a => exact unraised_ok _

theorem inert_operate (operation : Operation) (a b : Value) :
    Inert (Value.operate operation a b) := by
  unfold Value.operate
  split
  · exact inert_ok _
  · refine (unraised_quantity a).bind_inert fun x => (unraised_quantity b).bind_inert fun y => ?_
    exact (unraised_apply operation x y).bind_inert fun _ => inert_ok _

theorem inert_negate (value : Value) : Inert value.negate :=
  (unraised_quantity value).bind_inert fun q =>
    (unraised_negate q).bind_inert fun _ => inert_ok _

theorem unraised_ordered (holds : Ordering → Bool) (a b : Value) :
    Unraised (Value.ordered holds a b) := by
  unfold Value.ordered
  split
  · exact unraised_ok _
  · exact unraised_error rfl

theorem unraised_compare (comparison : Comparison) (a b : Value) :
    Unraised (Value.compare comparison a b) := by
  cases comparison with
  | eq | ne => exact unraised_ok _
  | lt | le | gt | ge => exact unraised_ordered _ a b

theorem inert_compare (comparison : Comparison) (a b : Value) :
    Inert ((Value.compare comparison a b).map Value.bool) := by
  have unraised := unraised_compare comparison a b
  cases outcome : Value.compare comparison a b with
  | error fault => exact inert_error (unraised fault outcome)
  | ok holds => exact inert_ok _

/-! ## Properties and indexes -/

theorem inert_property (data : Json) (name : String) : Inert (data.property name) := by
  unfold Json.property
  split
  · split
    · exact inert_ok _
    · split <;> exact inert_ok _
  · split
    · exact inert_ok _
    · exact inert_error rfl
  · split
    · exact inert_ok _
    · exact inert_error rfl
  · exact inert_error rfl

theorem inert_itemUnder (items : List Json) (index : Value) : Inert (Json.itemUnder items index) := by
  unfold Json.itemUnder
  split
  · split
    · exact inert_ok _
    · exact inert_error rfl
  · exact inert_error rfl

theorem inert_memberUnder (members : Table Json) (key : Value) :
    Inert (.ok (Json.memberUnder members key)) := by
  unfold Json.memberUnder
  split <;> exact inert_ok _

theorem inert_index (data : Json) (index : Value) : Inert (data.index index) := by
  unfold Json.index
  split
  · exact inert_itemUnder _ index
  · exact inert_memberUnder _ index
  · exact inert_error rfl

/-! ## Methods -/

/-- The method answers any arguments by itself. -/
def Method.Inert : Method → Prop
  | nullary answer => Scriptlet.Inert answer
  | unary answer => ∀ a, Scriptlet.Inert (answer a)
  | binary answer => ∀ a b, Scriptlet.Inert (answer a b)
  | unaryOrBinary answer => ∀ a b, Scriptlet.Inert (answer a b)

theorem Method.Inert.call {method : Method} (inert : method.Inert) (name : String)
    (arguments : List Value) : Scriptlet.Inert (method.call name arguments) := by
  unfold Method.call
  split
  · exact inert
  · exact inert _
  · exact inert _ _
  · exact inert _ none
  · exact inert _ (some _)
  · exact inert_error rfl

namespace Text

theorem unraised_offset (text : List Char) (i : Int64) : Unraised (offset text i) := by
  unfold offset
  split
  · exact unraised_ok _
  · exact unraised_error rfl

theorem unraised_slice (text : List Char) (first past : Nat) : Unraised (slice text first past) := by
  unfold slice
  split
  · exact unraised_ok _
  · exact unraised_error rfl

theorem inert_substring (text : List Char) (first : Value) (past : Option Value) :
    Inert (substring text first past) := by
  have cut : ∀ i j, Inert (slice text i j >>= fun part => .ok (.ofChars part)) :=
    fun i j => (unraised_slice text i j).bind_inert fun _ => inert_ok _
  refine (unraised_integerArgument first).bind_inert fun i =>
    (unraised_offset text i).bind_inert fun i => ?_
  cases past with
  | none => exact cut i text.length
  | some past =>
    exact (unraised_integerArgument past).bind_inert fun j =>
      (unraised_offset text j).bind_inert (cut i)

theorem inert_charAt (text : List Char) (position : Value) : Inert (charAt text position) := by
  refine (unraised_integerArgument position).bind_inert fun i => ?_
  split
  · exact inert_ok _
  · exact inert_error rfl

theorem inert_indexOf (text sought : List Char) : Inert (.ok (indexOf text sought)) := by
  unfold indexOf
  split <;> exact inert_ok _

theorem inert_method {text : List Char} {name : String} {method : Method}
    (found : method? text name = some method) : method.Inert := by
  unfold method? at found
  split at found
  all_goals cases found
  · exact inert_ok _
  · exact inert_ok _
  · exact inert_ok _
  · exact inert_ok _
  · exact inert_ok _
  · exact inert_substring text
  · exact inert_charAt text
  · exact fun start => (unraised_textArgument start).bind_inert fun _ => inert_ok _
  · exact fun ending => (unraised_textArgument ending).bind_inert fun _ => inert_ok _
  · exact fun part => (unraised_textArgument part).bind_inert fun _ => inert_ok _
  · exact fun sought => (unraised_textArgument sought).bind_inert fun _ => inert_indexOf text _
  · exact fun sought replacement => (unraised_textArgument sought).bind_inert fun _ =>
      (unraised_textArgument replacement).bind_inert fun _ => inert_ok _

end Text

namespace Json

theorem inert_listMethod {items : List Json} {name : String} {method : Method}
    (found : listMethod? items name = some method) : method.Inert := by
  unfold listMethod? at found
  split at found
  all_goals cases found
  · exact inert_ok _
  · exact inert_ok _
  · exact inert_itemUnder items
  · exact fun sought => inert_ok _

theorem inert_mapMethod {members : Table Json} {name : String} {method : Method}
    (found : mapMethod? members name = some method) : method.Inert := by
  unfold mapMethod? at found
  split at found
  all_goals cases found
  · exact inert_ok _
  · exact inert_ok _
  · exact inert_memberUnder members
  · exact fun key => inert_ok _

theorem inert_kindMethod {data : Json} {name : String} {method : Method}
    (found : data.kindMethod? name = some method) : method.Inert := by
  unfold kindMethod? at found
  split at found
  · exact Text.inert_method found
  · exact inert_listMethod found
  · exact inert_mapMethod found
  · cases found

theorem inert_callMethod (data : Json) (name : String) (arguments : List Value) :
    Inert (data.callMethod name arguments) := by
  unfold callMethod
  split
  · exact inert_ok _
  · exact inert_ok _
  · split
    · rename_i found
      exact (inert_kindMethod found).call name arguments
    · exact inert_error rfl

end Json

end Scriptlet
