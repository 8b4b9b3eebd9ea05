import Tabulate.Pipeline
import Tabulate.Proofs.Derive
import Tabulate.Proofs.Fresh

/-!
# Stacks of names

Each shape of a stack adds its names to those that the next one must avoid.  So a made-up name
differs from all that were taken before it, whoever brought them in.  A stack of lone values alone
takes the free candidates for its names one after the other.
-/

namespace Tabulate

namespace Settings

variable {settings : Settings} {taken : List String} {shape : Shape} {shapes : List Shape}

/-! ## One shape -/

/-- A shape without named parts is named by the fresh name. -/
theorem fieldNames_of_lone (valid : settings.validate = .ok ())
    (access : shape.checkAccessible = .ok ()) (lone : shape.isComposite = false) :
    settings.fieldNames shape taken = .ok [Names.fresh settings.baseName taken] := by
  obtain ⟨-, named, -⟩ := validate_eq_ok_iff.mp valid
  rw [fieldNames, valid, Outcome.ok_bind, Shape.fieldNames_of_lone access lone named]

/-- Nothing is named under settings that are refused, or if the declaration is. -/
theorem access_of_fieldNames {names : List String}
    (found : settings.fieldNames shape taken = .ok names) :
    settings.validate = .ok () ∧ shape.checkAccessible = .ok () := by
  rw [fieldNames, Outcome.then_eq_ok_iff, Shape.fieldNames, Outcome.then_eq_ok_iff] at found
  exact ⟨found.1, found.2.1⟩

/-- What is taken before a shape is taken after it. -/
theorem subset_stack : taken ⊆ (settings.stack taken shape).2 := by
  rw [stack]
  split
  · exact List.subset_append_left _ _
  · exact List.Subset.refl _

/-- The names of a shape are taken after it. -/
theorem subset_stack_of_eq_ok {names : List String}
    (found : (settings.stack taken shape).1 = .ok names) :
    names ⊆ (settings.stack taken shape).2 := by
  rw [stack] at found ⊢
  split at found
  next result result_eq =>
    obtain rfl := Except.ok.inj found
    exact List.subset_append_right _ _
  next => cases found

theorem stack_fst : (settings.stack taken shape).1 = settings.fieldNames shape taken := by
  rw [stack]
  split
  next found => exact found.symm
  next refused => exact refused.symm

/-- A lone value takes the next free candidate. -/
theorem stack_of_lone (valid : settings.validate = .ok ())
    (access : shape.checkAccessible = .ok ()) (lone : shape.isComposite = false) (count : Nat) :
    settings.stack (taken ++ Names.firstFree settings.baseName taken count) shape =
      (.ok [Names.nthFree settings.baseName taken count],
        taken ++ Names.firstFree settings.baseName taken (count + 1)) := by
  rw [stack, fieldNames_of_lone valid access lone, Names.fresh_append_firstFree,
    Names.firstFree_succ, ← List.append_assoc]

/-! ## Runs -/

/-- A made-up name differs from the names taken before the stack and from those of all shapes
before it. -/
theorem exists_fresh_of_stackNames {place : Nat} {names : List String}
    (asked : shapes[place]? = some shape) (lone : shape.isComposite = false)
    (found : (settings.stackNames taken shapes)[place]? = some (.ok names)) :
    ∃ name, names = [name] ∧ name ∉ taken ∧
      ∀ earlier < place, ∀ earlierNames,
        (settings.stackNames taken shapes)[earlier]? = some (.ok earlierNames) →
          name ∉ earlierNames := by
  -- The names taken after a shape include its own, so the rest of the stack avoids them as well.
  induction shapes generalizing taken place with
  | nil => cases asked
  | cons first shapes ih =>
      cases place with
      | zero =>
          obtain rfl := Option.some.inj asked
          have outcome := Option.some.inj found
          rw [stack_fst] at outcome
          obtain ⟨valid, access⟩ := access_of_fieldNames outcome
          rw [fieldNames_of_lone valid access lone, Except.ok.injEq] at outcome
          refine ⟨_, outcome.symm, Names.fresh_notMem _ _, ?_⟩
          intro earlier before
          exact absurd before (Nat.not_lt_zero earlier)
      | succ place =>
          obtain ⟨name, names_eq, unused, distinct⟩ := ih asked found
          refine ⟨name, names_eq, fun member => unused (subset_stack member), ?_⟩
          intro earlier before earlierNames earlierFound
          cases earlier with
          | zero =>
              have outcome := Option.some.inj earlierFound
              exact fun member => unused (subset_stack_of_eq_ok outcome member)
          | succ earlier =>
              exact distinct earlier (Nat.lt_of_succ_lt_succ before) earlierNames earlierFound

/-- A stack of lone values that has used some free candidates goes on with those behind them. -/
theorem stackNames_append_firstFree (valid : settings.validate = .ok ())
    (lone : ∀ shape ∈ shapes, shape.checkAccessible = .ok () ∧ shape.isComposite = false)
    (count : Nat) :
    settings.stackNames (taken ++ Names.firstFree settings.baseName taken count) shapes =
      (List.range' count shapes.length).map fun place =>
        .ok [Names.nthFree settings.baseName taken place] := by
  induction shapes generalizing count with
  | nil => rfl
  | cons first shapes ih =>
      obtain ⟨⟨firstAccess, firstLone⟩, restLone⟩ := List.forall_mem_cons.mp lone
      rw [stackNames, stack_of_lone valid firstAccess firstLone, ih restLone, List.length_cons,
        List.range'_succ, List.map_cons]

/-- The name made up for a shape differs from the names taken before the stack and from the names of
all shapes before it.  The names of lone values alone are the first free candidates, in order. -/
theorem stackNames_fresh (valid : settings.validate = .ok ()) :
    (∀ (place : Nat) (shape : Shape) (names : List String),
        shapes[place]? = some shape → shape.isComposite = false →
        (settings.stackNames taken shapes)[place]? = some (.ok names) →
          ∃ name, names = [name] ∧ name ∉ taken ∧
            ∀ earlier < place, ∀ earlierNames : List String,
              (settings.stackNames taken shapes)[earlier]? = some (.ok earlierNames) →
                name ∉ earlierNames) ∧
      ((∀ shape ∈ shapes, shape.checkAccessible = .ok () ∧ shape.isComposite = false) →
        settings.stackNames taken shapes =
          (Names.firstFree settings.baseName taken shapes.length).map fun name => .ok [name]) := by
  constructor
  · intro place shape names asked lone found
    exact exists_fresh_of_stackNames asked lone found
  · intro lone
    have run := @stackNames_append_firstFree settings taken shapes valid lone 0
    rw [Names.firstFree, List.range_zero, List.map_nil, List.append_nil] at run
    rw [run, Names.firstFree, List.map_map, List.range_eq_range']
    rfl

/-- A lone value behind a pair avoids the names of the pair, and three lone values beside a taken
name leave it out. -/
theorem stackNames_fresh_amounts :
    validate {} = .ok () ∧
      (∃ name, (stackNames {} [] [.pair, .amount])[1]? = some (.ok [name]) ∧ name = "f0_0" ∧
        name ∉ ["f0", "f1"]) ∧
      stackNames {} ["f0_0"] [.amount, .amount, .amount] =
        [.ok ["f0"], .ok ["f0_1"], .ok ["f0_2"]] ∧
      stackNames {} ["f0_0"] [.amount, .amount, .amount] =
        (Names.firstFree "f0" ["f0_0"] 3).map fun name => .ok [name] := by
  have valid : validate {} = .ok () := rfl
  refine ⟨valid, ?_, rfl, ?_⟩
  · have found : (stackNames {} [] [.pair, .amount])[1]? = some (.ok ["f0_0"]) := rfl
    obtain ⟨name, names_eq, -, distinct⟩ := (stackNames_fresh valid).1 1 .amount _ rfl rfl found
    obtain rfl := List.singleton_injective names_eq
    exact ⟨_, found, rfl, distinct 0 Nat.one_pos _ rfl⟩
  · apply (stackNames_fresh valid).2
    intro shape member
    obtain rfl : shape = .amount := by simpa using member
    exact ⟨rfl, rfl⟩

end Settings
end Tabulate
