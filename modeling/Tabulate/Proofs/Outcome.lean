import Mathlib.Data.List.Forall2

/-!
# Outcomes

A derivation is a sequence of steps, each of which yields a value or a fault, and the first fault
ends it.  A sequence that reaches its end has met a value at every step.  Rewording the faults of a
sequence rewords those of its steps.
-/

namespace Tabulate
namespace Outcome

variable {ε δ α β : Type}

@[simp]
theorem pure_eq_ok (value : α) : (pure value : Except ε α) = .ok value := rfl

@[simp]
theorem throw_eq_error (fault : ε) : (throw fault : Except ε α) = .error fault := rfl

@[simp]
theorem ok_bind (value : α) (next : α → Except ε β) : (Except.ok value >>= next) = next value := rfl

@[simp]
theorem error_bind (fault : ε) (next : α → Except ε β) :
    (Except.error fault >>= next) = .error fault := rfl

/-- A sequence yields what its second step makes of the value of its first. -/
theorem bind_eq_ok_iff {first : Except ε α} {next : α → Except ε β} {result : β} :
    (first >>= next) = .ok result ↔ ∃ value, first = .ok value ∧ next value = .ok result := by
  cases first with
  | error fault => simp
  | ok value => simp

/-- A step behind a check is reached exactly if the check is passed. -/
theorem then_eq_ok_iff {check : Except ε Unit} {next : Except ε β} {result : β} :
    (check >>= fun _ => next) = .ok result ↔ check = .ok () ∧ next = .ok result := by
  cases check with
  | error fault => simp
  | ok value => simp

/-- A refusal is passed exactly if its cause is absent. -/
theorem refuse_eq_ok_iff {cause : Prop} [Decidable cause] {fault : ε} {rest : Except ε α}
    {result : α} :
    (if cause then .error fault else rest) = .ok result ↔ ¬cause ∧ rest = .ok result := by
  split_ifs with present
  · simp [present]
  · simp [present]

/-- A traversal yields one value for each element, in order. -/
theorem mapM_eq_ok_iff {step : α → Except ε β} {inputs : List α} {outputs : List β} :
    inputs.mapM step = .ok outputs ↔
      List.Forall₂ (fun input output => step input = .ok output) inputs outputs := by
  induction inputs generalizing outputs with
  | nil => simp [eq_comm]
  | cons input inputs ih =>
      simp only [List.mapM_cons, bind_eq_ok_iff, pure_eq_ok, Except.ok.injEq, ih,
        List.forall₂_cons_left_iff]
      constructor
      · rintro ⟨output, head, rest, tail, rfl⟩
        exact ⟨output, rest, head, tail, rfl⟩
      · rintro ⟨output, rest, head, tail, rfl⟩
        exact ⟨output, head, rest, tail, rfl⟩

/-- What each related pair says of its right side holds of the whole right list. -/
theorem forall_mem_of_forall₂ {relation : α → β → Prop} {property : β → Prop} {inputs : List α}
    {outputs : List β} (related : List.Forall₂ relation inputs outputs)
    (implies : ∀ input output, relation input output → property output) :
    ∀ output ∈ outputs, property output := by
  induction related with
  | nil => simp
  | cons head tail ih => exact List.forall_mem_cons.mpr ⟨implies _ _ head, ih⟩

theorem exists_getElem?_of_forall₂ {relation : α → β → Prop} {inputs : List α} {outputs : List β}
    (related : List.Forall₂ relation inputs outputs) {place : Nat} {input : α}
    (found : inputs[place]? = some input) :
    ∃ output, outputs[place]? = some output ∧ relation input output := by
  induction related generalizing place with
  | nil => simp at found
  | cons head tail ih =>
      cases place with
      | zero =>
          obtain rfl := Option.some.inj found
          exact ⟨_, rfl, head⟩
      | succ place => exact ih found

/-- A list is related to some list exactly if each of its elements is related to something. -/
theorem exists_forall₂_iff {relation : α → β → Prop} {inputs : List α} :
    (∃ outputs, List.Forall₂ relation inputs outputs) ↔
      ∀ input ∈ inputs, ∃ output, relation input output := by
  constructor
  · rintro ⟨outputs, related⟩ input member
    obtain ⟨place, found⟩ := List.mem_iff_getElem?.mp member
    obtain ⟨output, -, outputRelated⟩ := exists_getElem?_of_forall₂ related found
    exact ⟨output, outputRelated⟩
  · intro each
    induction inputs with
    | nil => exact ⟨[], .nil⟩
    | cons input inputs ih =>
        obtain ⟨⟨output, head⟩, rest⟩ := List.forall_mem_cons.mp each
        obtain ⟨outputs, tail⟩ := ih rest
        exact ⟨output :: outputs, .cons head tail⟩

/-- Two lists that are related to one list are equal if the relations never disagree. -/
theorem eq_of_forall₂_of_forall₂ {leftRelation rightRelation : α → β → Prop} {inputs : List α}
    {lefts rights : List β} (leftRelated : List.Forall₂ leftRelation inputs lefts)
    (rightRelated : List.Forall₂ rightRelation inputs rights)
    (agree : ∀ input ∈ inputs, ∀ left right,
      leftRelation input left → rightRelation input right → left = right) :
    lefts = rights := by
  induction leftRelated generalizing rights with
  | nil => exact (List.forall₂_nil_left_iff.mp rightRelated).symm
  | cons leftHead leftTail ih =>
      obtain ⟨right, rest, rightHead, rightTail, rfl⟩ :=
        List.forall₂_cons_left_iff.mp rightRelated
      obtain ⟨headAgree, tailAgree⟩ := List.forall_mem_cons.mp agree
      rw [headAgree _ _ leftHead rightHead, ih rightTail tailAgree]

/-- Tests that agree on related pairs succeed equally often on related lists. -/
theorem countP_eq_of_forall₂ {relation : α → β → Prop} {inputTest : α → Bool}
    {outputTest : β → Bool} {inputs : List α} {outputs : List β}
    (related : List.Forall₂ relation inputs outputs)
    (agree : ∀ input output, relation input output → inputTest input = outputTest output) :
    inputs.countP inputTest = outputs.countP outputTest := by
  induction related with
  | nil => rfl
  | cons head tail ih => simp [List.countP_cons, ih, agree _ _ head]

/-- Views that agree on related pairs are equal on related lists. -/
theorem map_eq_of_forall₂ {γ : Type} {relation : α → β → Prop} {inputView : α → γ}
    {outputView : β → γ} {inputs : List α} {outputs : List β}
    (related : List.Forall₂ relation inputs outputs)
    (agree : ∀ input output, relation input output → inputView input = outputView output) :
    inputs.map inputView = outputs.map outputView := by
  induction related with
  | nil => rfl
  | cons head tail ih => rw [List.map_cons, List.map_cons, ih, agree _ _ head]

@[simp]
theorem mapError_ok (reword : ε → δ) (value : α) :
    (Except.ok value).mapError reword = .ok value := rfl

@[simp]
theorem mapError_error (reword : ε → δ) (fault : ε) :
    (Except.error fault : Except ε α).mapError reword = .error (reword fault) := rfl

theorem mapError_eq_ok_iff {reword : ε → δ} {outcome : Except ε α} {value : α} :
    outcome.mapError reword = .ok value ↔ outcome = .ok value := by
  cases outcome with
  | error fault => simp
  | ok other => simp

theorem mapError_bind (reword : ε → δ) (first : Except ε α) (next : α → Except ε β) :
    (first >>= next).mapError reword =
      first.mapError reword >>= fun value => (next value).mapError reword := by
  cases first with
  | error fault => rfl
  | ok value => rfl

theorem mapError_mapM (reword : ε → δ) (step : α → Except ε β) (inputs : List α) :
    (inputs.mapM step).mapError reword =
      inputs.mapM fun input => (step input).mapError reword := by
  induction inputs with
  | nil => rfl
  | cons input inputs ih =>
      simp only [List.mapM_cons, mapError_bind, ih]
      rfl

end Outcome
end Tabulate
