import Retag.Proofs.Grammar.Unambiguity
import Retag.Proofs.Running.Library

/-!
# Adding functions

A registry may be extended without changing what its scripts mean. Reading a script asks for
argument counts only, and only of the functions that the script calls, so more functions allow more
scripts and read none of them differently. A run looks up the functions that the script calls. A
function may ask which others there are, and then it can tell an extension apart; no function of the
library does, and a script that calls only such functions runs as before.
-/

namespace Retag.Script

open Grammar

/-! ## Reading -/

namespace Grammar

variable {arityOf arityOf' : String → Option Arity}

/-- `arityOf'` has the functions of `arityOf`, and more perhaps, with their argument counts, and
more perhaps. -/
def Covers (arityOf' arityOf : String → Option Arity) : Prop :=
  ∀ name arity, arityOf name = some arity → ∃ arity', arityOf' name = some arity' ∧
    ∀ n, arity.accepts n = true → arity'.accepts n = true

theorem Derives.mono (hle : Covers arityOf' arityOf) {depth : Nat} {l l' : Level}
    {ps : List Piece} (h : Derives arityOf depth l ps l') : Derives arityOf' depth l ps l' := by
  induction h with
  | nil => exact .nil
  | text hne hrun hstart _ ih => exact .text hne hrun hstart ih
  | tag hname _ ih => exact .tag hname ih
  | call hname harity hdepth _ _ hcount _ ihf ihm ih =>
    obtain ⟨arity', harity', haccepts⟩ := hle _ _ harity
    exact .call hname harity' hdepth ihf ihm (haccepts _ hcount) ih

/-- A reading stays the reading when there are more functions. -/
theorem parse_mono (hle : Covers arityOf' arityOf) {source : String} {tree : Tree}
    (h : parse arityOf source = .ok tree) : parse arityOf' source = .ok tree := by
  obtain ⟨d, rfl, rfl⟩ := derivation_of_parse h
  exact parse_source ⟨d.pieces, d.derives.mono hle⟩

/-- Which functions there are decides whether a source is read, but not as what. -/
theorem parse_unique {source : String} {tree tree' : Tree} (h : parse arityOf source = .ok tree)
    (h' : parse arityOf' source = .ok tree') : tree = tree' := by
  -- Both are readings where every name is that of a function with any number of arguments.
  have hall (f : String → Option Arity) : Covers (fun _ => some .any) f :=
    fun _ _ _ => ⟨.any, rfl, fun n _ => by simp [Arity.accepts, Arity.any, Arity.atLeast]⟩
  have hread := parse_mono (hall arityOf) h
  have hread' := parse_mono (hall arityOf') h'
  exact Except.ok.inj (hread.symm.trans hread')

/-- A tree that was read calls functions that there are. -/
theorem Canonical.known {depth : Nat} {t : Tree} (h : Canonical arityOf depth t) :
    ∀ call ∈ callsOf t, ∃ arity, arityOf call.1 = some arity := by
  induction h with
  | nil => exact nofun
  | text _ _ _ ih => simpa [callsOf, Node.calls] using ih
  | tag _ _ ih => simpa [callsOf, Node.calls] using ih
  | @call _ name arity args position rest _ ha _ _ _ _ _ iha ih =>
    intro call hc
    simp only [callsOf, Node.calls, List.cons_append, List.mem_cons, List.mem_append,
      mem_callsOfAll] at hc
    rcases hc with rfl | ⟨t, ht, hc⟩ | hc
    · exact ⟨arity, ha⟩
    · exact iha t ht call hc
    · exact ih call hc

end Grammar

/-! ## Running -/

/-- `r'` has every function of `r`, carried out in the same way, with the same argument counts. -/
def Registry.Extends (r' r : Registry) : Prop :=
  ∀ name f, r.find? name = some f → ∃ f', r'.find? name = some f' ∧
    f'.implementation = f.implementation ∧ f'.arity = f.arity

namespace Registry

variable {r r' : Registry}

/-- A function under a new name may be added to any registry. -/
theorem extends_register {f : Function} (h : r.find? f.name = none) :
    (r.register f).Extends r := by
  intro name g hg
  refine ⟨g, ?_, rfl, rfl⟩
  have hname : f.name ≠ name := by
    rintro rfl
    rw [h] at hg
    cases hg
  rw [← hg]
  exact (find?_insert f r.functions name).trans (if_neg hname)

theorem Extends.covers (h : r'.Extends r) : Covers r'.arity? r.arity? := by
  intro name arity ha
  obtain ⟨f, hf, rfl⟩ := Option.map_eq_some_iff.mp ha
  obtain ⟨f', hf', -, harity⟩ := h name f hf
  refine ⟨f.arity, ?_, fun _ => id⟩
  rw [Registry.arity?, hf', Option.map_some, harity]

/-- A call of a heedless function that there is does not depend on which others there are. -/
theorem Extends.call_eq (h : r'.Extends r) {name : String} {arity : Arity}
    (ha : r.arity? name = some arity)
    (hheedless : ∀ f, r.find? name = some f → f.implementation.Heedless) (args : List Argument)
    (position : Position) : r'.call name args position = r.call name args position := by
  obtain ⟨f, hf, rfl⟩ := Option.map_eq_some_iff.mp ha
  obtain ⟨f', hf', hsame, harity⟩ := h name f hf
  exact call_heedless hf hf' hsame harity (hheedless f hf) args position

end Registry

/-- More functions do not change how a script is read. If no function that it calls asks which
functions there are, they do not change what a run of it does: which value or error it ends with,
and which tags it leaves. Scripts of the library only call such functions. And whatever functions
two registries have, what both can read they read alike. -/
theorem extensions_conservative :
    (∀ r r' : Registry, r'.Extends r → ∀ (source : String) (tree : Tree),
      parse r.arity? source = .ok tree →
        parse r'.arity? source = .ok tree ∧
        ((∀ call ∈ callsOf tree, ∀ f, r.find? call.1 = some f → f.implementation.Heedless) →
          ∀ (host : Host) (state : RunState),
            (evalTree r' tree).runFrom host state = (evalTree r tree).runFrom host state)) ∧
    (∀ r' : Registry, r'.Extends Library.standard → ∀ (source : String) (tree : Tree),
      parse Library.standard.arity? source = .ok tree →
        ∀ (host : Host) (state : RunState), (evalTree r' tree).runFrom host state
          = (evalTree Library.standard tree).runFrom host state) ∧
    (∀ (r r' : Registry) (source : String) (tree tree' : Tree),
      parse r.arity? source = .ok tree → parse r'.arity? source = .ok tree' → tree = tree') := by
  have hrun {r r' : Registry} (hr : r'.Extends r) {source : String} {tree : Tree}
      (hparse : parse r.arity? source = .ok tree)
      (h : ∀ call ∈ callsOf tree, ∀ f, r.find? call.1 = some f → f.implementation.Heedless) :
      evalTree r' tree = evalTree r tree := by
    refine evalTree_congr tree fun call hc args => ?_
    obtain ⟨arity, ha⟩ := (canonical_of_parse hparse).known call hc
    exact hr.call_eq ha (h call hc) args call.2
  refine ⟨fun r r' hr source tree hparse => ⟨parse_mono hr.covers hparse, fun h host state => ?_⟩,
    fun r' hr source tree hparse host state => ?_, fun r r' source tree tree' => parse_unique⟩
  · rw [hrun hr hparse h]
  · rw [hrun hr hparse fun _ _ f hf => Library.standard_heedless (Registry.mem_of_find? hf).1]

/-- A host adds a function to the library, and a registry of its own has that function alone. -/
theorem extensions_conservative_shout :
    let shout : Function := ⟨"shout", .eager fun values => return "!".intercalate values, .any, ""⟩
    let host : Host := ⟨none, ⟨⟨2024, 5, 6⟩, ⟨7, 8, 9, 0⟩, 0⟩⟩
    let source := "$foreach(a; b,$set(c,%_loop_value%))$datetime(\\%)"
    let tree : Tree := [
      .call "foreach" [[.text "a; b"],
        [.call "set" [[.text "c"], [.tag "_loop_value"]] ⟨1, 15, 14⟩]] .start,
      .call "datetime" [[.text "%"]] ⟨1, 37, 36⟩]
    let extended := Library.standard.register shout
    parse Library.standard.arity? source = .ok tree ∧ parse extended.arity? source = .ok tree ∧
    (evalTree extended tree).runFrom host ⟨.empty, []⟩
      = (evalTree Library.standard tree).runFrom host ⟨.empty, []⟩ ∧
    ∀ tree, parse extended.arity? "$shout(a,%b%)" = .ok tree →
      tree = [.call "shout" [[.text "a"], [.tag "b"]] .start] := by
  intro shout host source tree extended
  have hparse : parse Library.standard.arity? "$foreach(a; b,$set(c,%_loop_value%))$datetime(\\%)"
      = .ok tree := by
    rw [Library.arity?_standard]
    rfl
  have hnew : Library.standard.find? shout.name = none := by
    rw [Library.find?_standard]
    rfl
  have hextends : extended.Extends Library.standard := Registry.extends_register hnew
  have halone : parse (Registry.ofList [shout]).arity? "$shout(a,%b%)"
      = .ok [.call "shout" [[.text "a"], [.tag "b"]] .start] := rfl
  obtain ⟨hread, hrun⟩ := extensions_conservative.1 _ _ hextends source tree hparse
  have hheedless : ∀ call ∈ callsOf tree, ∀ f, Library.standard.find? call.1 = some f →
      f.implementation.Heedless :=
    fun _ _ f hf => Library.standard_heedless (Registry.mem_of_find? hf).1
  refine ⟨hparse, hread, hrun hheedless host ⟨.empty, []⟩, fun tree' h => ?_⟩
  exact extensions_conservative.2.2 extended (.ofList [shout]) _ tree' _ h halone

/-- A function that asks whether there is another tells an extension by that other apart. -/
theorem extensions_told_apart :
    let has : Function := ⟨"has", .onValues fun known values =>
      return if known.any (·.name == values.headD "") then "1" else "", .exactly 1, ""⟩
    let shout : Function := ⟨"shout", .eager fun values => return "!".intercalate values, .any, ""⟩
    let r : Registry := .ofList [has]
    let r' := r.register shout
    let host : Host := ⟨none, ⟨⟨2024, 5, 6⟩, ⟨7, 8, 9, 0⟩, 0⟩⟩
    let tree : Tree := [.call "has" [[.text "shout"]] .start]
    r'.Extends r ∧
    parse r.arity? "$has(shout)" = .ok tree ∧ parse r'.arity? "$has(shout)" = .ok tree ∧
    ((evalTree r tree).runFrom host ⟨.empty, []⟩).1 = .ok "" ∧
    ((evalTree r' tree).runFrom host ⟨.empty, []⟩).1 = .ok "1" :=
  ⟨Registry.extends_register rfl, rfl, rfl, rfl, rfl⟩

end Retag.Script
