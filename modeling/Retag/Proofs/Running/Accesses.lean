import Retag.Proofs.Running.Checked
import Retag.Proofs.Running.Safety

/-!
# Accesses of the library

The library with all accesses to places checked is the library, and its functions make no error of an
access with the argument counts that they accept. So all accesses of a run are to places that are
there.
-/

namespace Retag.Library

open Script

/-! ## Checking every function -/

/-- The implementations that access more than single arguments, with their accesses. -/
def accessing : List (String × Implementation) := [
  ("left", Checked.ofTwo Checked.left?),
  ("right", Checked.ofTwo Checked.right?),
  ("substr", Checked.ofThree Checked.substr?),
  ("firstwords", Checked.ofTwo Checked.firstWords?),
  ("truncate", Checked.ofTwo Checked.truncate?),
  ("find", Checked.ofTwo Checked.findText?),
  ("swapprefix", Checked.ofFirst Checked.swapPrefix?),
  ("delprefix", Checked.ofFirst Checked.deletePrefix?),
  ("firstalphachar", .eager Checked.firstAlpha),
  ("eq_any", Checked.ofFirst fun x others => some (truth (others.contains x))),
  ("ne_all", Checked.ofFirst fun x others => some (truth (!others.contains x))),
  ("eq_all", Checked.ofFirst fun x others => some (truth (others.all (· == x)))),
  ("ne_any", Checked.ofFirst fun x others => some (truth (!others.all (· == x)))),
  ("setmulti", .eager Checked.setMulti),
  ("getmulti", .lazy Checked.getMulti),
  ("slice", .lazy Checked.slice),
  ("map", .lazy Checked.map),
  ("performer", .eager Checked.performer)]

/-- A function of the library with all its accesses to places checked. -/
def checked (f : Function) : Function :=
  match accessing.find? (·.1 == f.name) with
  | some (_, implementation) => { f with implementation := implementation }
  | none => f

theorem accessing_eq : ∀ entry ∈ accessing, ∃ f, standard.find? entry.1 = some f ∧
    entry.2 = f.implementation := by
  simp only [accessing, List.forall_mem_cons, find?_standard]
  refine ⟨⟨_, rfl, Checked.ofTwo_eq Checked.left?_eq⟩,
    ⟨_, rfl, Checked.ofTwo_eq Checked.right?_eq⟩,
    ⟨_, rfl, Checked.ofThree_eq fun text _ _ => Checked.sliceText?_eq _ _ text⟩,
    ⟨_, rfl, Checked.ofTwo_eq Checked.firstWords?_eq⟩,
    ⟨_, rfl, Checked.ofTwo_eq Checked.truncate?_eq⟩,
    ⟨_, rfl, Checked.ofTwo_eq Checked.findText?_eq⟩,
    ⟨_, rfl, Checked.ofFirst_eq Checked.swapPrefix?_eq⟩,
    ⟨_, rfl, Checked.ofFirst_eq Checked.deletePrefix?_eq⟩,
    ⟨_, rfl, congrArg Implementation.eager Checked.firstAlpha_eq⟩,
    ⟨_, rfl, Checked.ofFirst_eq fun _ _ => rfl⟩, ⟨_, rfl, Checked.ofFirst_eq fun _ _ => rfl⟩,
    ⟨_, rfl, Checked.ofFirst_eq fun _ _ => rfl⟩, ⟨_, rfl, Checked.ofFirst_eq fun _ _ => rfl⟩,
    ⟨_, rfl, congrArg Implementation.eager Checked.setMulti_eq⟩,
    ⟨_, rfl, congrArg Implementation.lazy Checked.getMulti_eq⟩,
    ⟨_, rfl, congrArg Implementation.lazy Checked.slice_eq⟩,
    ⟨_, rfl, congrArg Implementation.lazy Checked.map_eq⟩,
    ⟨_, rfl, congrArg Implementation.eager Checked.performer_eq⟩, nofun⟩

theorem find?_of_distinct {fs : List Function} (h : (fs.map (·.name)).Nodup) {f : Function}
    (hf : f ∈ fs) : fs.find? (·.name == f.name) = some f := by
  induction fs with
  | nil => cases hf
  | cons g rest ih =>
    rw [List.map_cons, List.nodup_cons] at h
    rw [Registry.find?_cons]
    rcases List.mem_cons.mp hf with rfl | hf
    · rw [if_pos rfl]
    · have hother : g.name ≠ f.name := fun hname => h.1 (hname ▸ List.mem_map_of_mem hf)
      rw [if_neg hother, ih h.2 hf]

theorem standard_distinct : (standard.functions.map (·.name)).Nodup := by
  refine List.pairwise_map.mpr ((Registry.pairwise_ofList allFunctions).imp fun hlt heq => ?_)
  exact String.lt_irrefl _ (heq ▸ hlt)

/-- Checking its accesses changes nothing about a function of the library. -/
theorem checked_eq {f : Function} (hf : f ∈ standard.functions) : checked f = f := by
  rw [checked]
  split
  case h_2 _ => rfl
  case h_1 name implementation hentry =>
    have hname : name = f.name := by simpa using List.find?_some hentry
    obtain ⟨g, hg, himplementation⟩ := accessing_eq _ (List.mem_of_find?_eq_some hentry)
    have hsame : standard.find? f.name = some f := find?_of_distinct standard_distinct hf
    rw [hname, hsame] at hg
    cases hg
    dsimp only at himplementation ⊢
    rw [himplementation]

/-- The library with all its accesses to places checked. -/
def checkedLibrary : Registry := ⟨standard.functions.map checked⟩

theorem checkedLibrary_eq : checkedLibrary = standard := by
  have hsame : standard.functions.map checked = standard.functions.map id :=
    List.map_congr_left fun _ hf => checked_eq hf
  rw [checkedLibrary, hsame, List.map_id]

end Retag.Library

namespace Retag.Script

open Grammar

/-- It is not the fault of an access that asks for a place that is not there. -/
def RuntimeFault.Inside : RuntimeFault → Prop
  | .missingArgument _ _ => False
  | _ => True

theorem Function.raises_inside {f : Function} (hf : f ∈ Library.standard.functions)
    (position : Position) : f.Raises (·.fault.Inside) ⟨f.name, position⟩ :=
  (raises_of_standard hf position).mono fun _ he => he.2 ▸ trivial

/-- All accesses of the 77 functions of the library are to places that are there: checking them
makes no difference, no function makes such an error with an argument count that it accepts, and no
run of a script that was read ends in one. -/
theorem accesses_inside :
    Library.checkedLibrary = Library.standard ∧
    Library.checkedLibrary.functions.length = 77 ∧
    (∀ f ∈ Library.checkedLibrary.functions, ∀ position,
      f.Confines (·.fault.Inside) ⟨f.name, position⟩) ∧
    (∀ (source : String) (tree : Tree), parse Library.checkedLibrary.arity? source = .ok tree →
      ∀ (host : Host) (state : RunState) (e : RuntimeError),
        ((evalTree Library.checkedLibrary tree).runFrom host state).1 = .error e →
          e.fault.Inside) := by
  rw [Library.checkedLibrary_eq]
  refine ⟨rfl, rfl, ?_, ?_⟩
  · exact fun f hf position => (Function.raises_inside hf position).confines
  · intro source tree hparse host state e he
    have hfails : (evalTree Library.standard tree).Fails fun _ e => e.fault.Inside := by
      refine fails_evalTree (canonical_of_parse hparse) fun ⟨name, position⟩ _ f hf => ?_
      obtain ⟨hmem, rfl⟩ := Registry.mem_of_find? hf
      exact Function.raises_inside hmem position
    exact hfails.error host state e he

/-- The least and the greatest integer cut out a whole text, and a run that fails behind them does
so because of a format. -/
theorem accesses_inside_extremes :
    let host : Host := ⟨none, ⟨⟨2024, 5, 6⟩, ⟨7, 8, 9, 0⟩, 0⟩⟩
    let tree : Tree := [
      .call "substr"
        [[.text "abc"], [.text "-9223372036854775808"], [.text "9223372036854775807"]] .start,
      .call "datetime" [[.text "%"]] ⟨1, 54, 53⟩]
    let refused : RuntimeError := ⟨.unsupportedFormat "datetime", ⟨1, 54, 53⟩⟩
    Library.Checked.substr? "abc" "-9223372036854775808" "9223372036854775807" = some "abc" ∧
    parse Library.checkedLibrary.arity?
      "$substr(abc,-9223372036854775808,9223372036854775807)$datetime(\\%)" = .ok tree ∧
    ((evalTree Library.checkedLibrary tree).runFrom host ⟨.empty, []⟩).1 = .error refused ∧
    refused.fault.Inside := by
  intro host tree refused
  have hparse : parse Library.checkedLibrary.arity?
      "$substr(abc,-9223372036854775808,9223372036854775807)$datetime(\\%)" = .ok tree := rfl
  have hrun : ((evalTree Library.checkedLibrary tree).runFrom host ⟨.empty, []⟩).1
      = .error refused := rfl
  exact ⟨rfl, hparse, hrun, accesses_inside.2.2.2 _ tree hparse host ⟨.empty, []⟩ refused hrun⟩

end Retag.Script
