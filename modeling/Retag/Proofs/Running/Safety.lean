import Retag.Proofs.Running.Library

/-!
# Scripts that were read run safely

Reading a script checks every call that a run of it can make, so a run looks up no function in vain.
With the standard library it can only fail where `datetime` refuses a format.
-/

namespace Retag.Script

open Grammar

/-- A function may do anything but run scripts other than its own arguments. -/
def Implementation.OnlyEvaluates (i : Implementation) : Prop := i.Within .full fun _ _ => True

/-- The errors of calls to functions that are not there, or not for as many arguments. -/
def RuntimeFault.InLookup : RuntimeFault → Prop
  | .unknownFunction _ => True
  | .wrongCount _ _ _ => True
  | .unsupportedFormat _ => False
  | .missingArgument _ _ => False

/-- No power brings an error in looking up a function with it. -/
theorem Function.raises_outside_lookup {f : Function} (h : f.implementation.OnlyEvaluates)
    (frame : Frame) : f.Raises (¬ ·.fault.InLookup) frame := by
  refine ⟨_, _, h, fun n _ e he => ?_⟩
  cases he with
  | refused _ => exact not_false
  | missing _ => exact not_false

theorem Implementation.onlyEvaluates_of_standard {i : Implementation}
    (h : ∃ g ∈ Library.standard.functions, i = g.implementation) : i.OnlyEvaluates := by
  obtain ⟨g, hg, rfl⟩ := h
  exact (Library.standard_abide hg).mono (Powers.below_full _) fun _ _ _ => trivial

theorem Arity.min_le_of_accepts {a : Arity} {n : Nat} (h : a.accepts n = true) : a.min ≤ n := by
  rw [accepts, Bool.and_eq_true] at h
  exact of_decide_eq_true h.1

/-- A function of the library only asks for arguments that the call has, so it makes no error but
the one of `datetime`. -/
theorem Function.raises_of_standard {f : Function} (hf : f ∈ Library.standard.functions)
    (position : Position) : f.Raises (fun e => f.name = "datetime" ∧
      e = ⟨.unsupportedFormat "datetime", position⟩) ⟨f.name, position⟩ := by
  refine ⟨_, _, Library.standard_abide hf, fun n hn e he => ?_⟩
  have hmin := Arity.min_le_of_accepts hn
  cases he with
  | refused h =>
    have hname : f.name = "datetime" := h
    exact ⟨hname, by rw [hname]⟩
  | missing h =>
    obtain ⟨hle, hlt⟩ := h
    omega

/-- Whatever a registry's functions are, as long as they evaluate nothing but their own arguments, a
script that was read with it looks up no function in vain. With the standard library it can only
fail in a call of `datetime` that it contains, so without such a call it does not fail. -/
theorem evaluation_safe :
    (∀ r : Registry,
      (∀ f ∈ r.functions, (∃ g ∈ Library.standard.functions, f.implementation = g.implementation) ∨
        f.implementation.OnlyEvaluates) →
      ∀ (source : String) (tree : Tree), parse r.arity? source = .ok tree →
        ∀ (host : Host) (state : RunState) (e : RuntimeError),
          ((evalTree r tree).runFrom host state).1 = .error e →
            (∀ name, e.fault ≠ .unknownFunction name) ∧
            (∀ name expected actual, e.fault ≠ .wrongCount name expected actual)) ∧
    (∀ (source : String) (tree : Tree), parse Library.standard.arity? source = .ok tree →
      ∀ (host : Host) (state : RunState),
        (∀ e, ((evalTree Library.standard tree).runFrom host state).1 = .error e →
          ∃ position, ("datetime", position) ∈ callsOf tree ∧
            e = ⟨.unsupportedFormat "datetime", position⟩) ∧
        ((∀ position, ("datetime", position) ∉ callsOf tree) →
          ∃ value, ((evalTree Library.standard tree).runFrom host state).1 = .ok value)) := by
  constructor
  · intro r hr source tree hparse host state e he
    have hfails : (evalTree r tree).Fails fun _ e => ¬ e.fault.InLookup := by
      refine fails_evalTree (canonical_of_parse hparse) fun call _ f hf => ?_
      have hmem := (Registry.mem_of_find? hf).1
      refine Function.raises_outside_lookup ?_ _
      exact (hr f hmem).elim Implementation.onlyEvaluates_of_standard id
    have hout := hfails.error host state e he
    constructor
    · rintro name hname
      exact hout (hname ▸ trivial)
    · rintro name expected actual hcount
      exact hout (hcount ▸ trivial)
  · intro source tree hparse host state
    have hfails : (evalTree Library.standard tree).Fails fun _ e =>
        ∃ position, ("datetime", position) ∈ callsOf tree ∧
          e = ⟨.unsupportedFormat "datetime", position⟩ := by
      refine fails_evalTree (canonical_of_parse hparse) fun ⟨name, position⟩ hcall f hf => ?_
      obtain ⟨hmem, rfl⟩ := Registry.mem_of_find? hf
      refine (Function.raises_of_standard hmem position).mono fun e ⟨hname, he⟩ => ?_
      exact ⟨position, hname ▸ hcall, he⟩
    have herror := hfails.error host state
    refine ⟨herror, fun hnone => ?_⟩
    rcases hrun : ((evalTree Library.standard tree).runFrom host state).1 with e | value
    · obtain ⟨position, hmem, -⟩ := herror e hrun
      exact absurd hmem (hnone position)
    · exact ⟨value, rfl⟩

/-- A format that ends in a lone percent sign is refused; a script without calls has a value. -/
theorem evaluation_safe_dateTime :
    let host : Host := ⟨none, ⟨⟨2024, 5, 6⟩, ⟨7, 8, 9, 0⟩, 0⟩⟩
    let tree : Tree := [.call "datetime" [[.text "%"]] .start]
    let refused : RuntimeError := ⟨.unsupportedFormat "datetime", .start⟩
    parse Library.standard.arity? "$datetime(\\%)" = .ok tree ∧
    ((evalTree Library.standard tree).runFrom host ⟨.empty, []⟩).1 = .error refused ∧
    (∀ name, refused.fault ≠ .unknownFunction name) ∧
    (∃ position, ("datetime", position) ∈ callsOf tree ∧
      refused = ⟨.unsupportedFormat "datetime", position⟩) ∧
    ∃ value,
      ((evalTree Library.standard [.tag "title"]).runFrom host ⟨.empty, []⟩).1 = .ok value := by
  intro host tree refused
  have hparse : parse Library.standard.arity? "$datetime(\\%)" = .ok tree := rfl
  have hrun : ((evalTree Library.standard tree).runFrom host ⟨.empty, []⟩).1 = .error refused := rfl
  have hplain : parse Library.standard.arity? "%title%" = .ok [.tag "title"] := rfl
  refine ⟨hparse, hrun, ?_, ?_, ?_⟩
  · exact (evaluation_safe.1 Library.standard (fun f hf => .inl ⟨f, hf, rfl⟩) _ _ hparse host
      ⟨.empty, []⟩ refused hrun).1
  · exact (evaluation_safe.2 _ _ hparse host ⟨.empty, []⟩).1 refused hrun
  · exact (evaluation_safe.2 _ _ hplain host ⟨.empty, []⟩).2 fun _ => List.not_mem_nil

end Retag.Script
