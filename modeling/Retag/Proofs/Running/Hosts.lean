import Retag.Proofs.Running.Library

/-!
# What a run sees of its host

A run can ask its host for two things, the album of the file and the clock, and only functions with
the power to do so ask. Two hosts that agree on what the functions of a tree ask for are the same to
every run of it: what has not been seen cannot be stored, so it is not read back either.
-/

namespace Retag.Script

variable {α β : Type} {S : Host → Host → Prop}

/-- Hosts that `S` relates are the same to every run: it ends alike, in the same state. -/
def Eval.Blind (S : Host → Host → Prop) (x : Eval α) : Prop :=
  ∀ host host', S host host' → ∀ s, x.runFrom host s = x.runFrom host' s

namespace Eval.Blind

/-- What makes no use of the host is blind to it. -/
theorem of_same {x : Eval α} (h : ∀ host host' s, x.runFrom host s = x.runFrom host' s) :
    x.Blind S :=
  fun host host' _ s => h host host' s

theorem pure (a : α) : (Pure.pure a : Eval α).Blind S := .of_same fun _ _ _ => rfl

theorem bind {x : Eval α} {f : α → Eval β} (hx : x.Blind S) (hf : ∀ a, (f a).Blind S) :
    (x >>= f).Blind S := by
  intro host host' hS s
  rw [Eval.runFrom_bind, Eval.runFrom_bind, hx host host' hS s]
  rcases x.runFrom host' s with ⟨e | a, s'⟩
  · rfl
  · exact hf a host host' hS s'

/-- What is done with the host may ask for nothing that tells related hosts apart. -/
theorem read {f : Host → Eval α} (hf : ∀ host, (f host).Blind S)
    (hsame : ∀ host host', S host host' → f host = f host') :
    (MonadReader.read >>= f).Blind S := by
  intro host host' hS s
  rw [Eval.runFrom_bind_ok (Eval.runFrom_read host s),
    Eval.runFrom_bind_ok (Eval.runFrom_read host' s), hsame host host' hS]
  exact hf host' host host' hS s

theorem errorHere (fault : String → RuntimeFault) :
    (Eval.errorHere fault >>= throw : Eval α).Blind S := by
  refine .bind (.of_same fun host host' s => ?_) fun e => .of_same fun _ _ _ => rfl
  rw [runFrom_errorHere, runFrom_errorHere]

theorem inFrame {x : Eval α} (hx : x.Blind S) (frame : Frame) :
    (Eval.inFrame frame x).Blind S := by
  intro host host' hS s
  have h := hx host host' hS { s with frames := frame :: s.frames }
  rw [Eval.runFrom_inFrame, Eval.runFrom_inFrame, h]

theorem valuesOf {args : List Argument} (h : ∀ a ∈ args, a.value.Blind S) :
    (Argument.valuesOf args).Blind S := by
  induction args with
  | nil => exact .pure []
  | cons a rest ih =>
    have hrest := ih fun b hb => h b (List.mem_cons_of_mem _ hb)
    exact (h a List.mem_cons_self).bind fun v => hrest.bind fun vs => .pure (v :: vs)

end Eval.Blind

/-- Related hosts are the same to a function with the powers `p`. -/
structure Powers.Blind (S : Host → Host → Prop) (p : Powers) : Prop where
  album : p.album → ∀ host host', S host host' →
    host.file.bind (·.album) = host'.file.bind (·.album)
  clock : p.clock → ∀ host host', S host host' → host.clock = host'.clock

/-- A computation sees no more of the host than its powers and its arguments do. -/
theorem Uses.blind {p : Powers} {missing : Nat → Prop} {arg : Eval String → Prop} {x : Eval α}
    (hp : p.Blind S) (harg : ∀ v, arg v → v.Blind S) (h : Uses p missing arg x) : x.Blind S := by
  induction h with
  | value a => exact .pure a
  | bind _ _ ihx ihf => exact ihx.bind ihf
  | argument h => exact harg _ h
  | tags => exact .of_same fun _ _ _ => rfl
  | change _ => exact .of_same fun _ _ _ => rfl
  | album h _ hf ih =>
    exact .read ih fun host host' hS => hf host host' (hp.album h host host' hS)
  | clock h _ hf ih =>
    exact .read ih fun host host' hS => hf host host' (hp.clock h host host' hS)
  | frame _ => exact .of_same fun _ _ _ => rfl
  | refuse _ => exact .errorHere _
  | missing _ => exact .errorHere _

/-! ## Calls and trees -/

/-- A function is blind if its powers are. -/
def Implementation.Blind (S : Host → Host → Prop) (i : Implementation) : Prop :=
  ∃ p missing, i.Within p missing ∧ p.Blind S

theorem Registry.blind_call {r : Registry} {name : String}
    (hf : ∀ f, r.find? name = some f → f.implementation.Blind S) {args : List Argument}
    (hargs : ∀ a ∈ args, a.value.Blind S) (position : Position) :
    (r.call name args position).Blind S := by
  rw [Registry.call]
  rcases hr : r.find? name with _ | ⟨fname, implementation, arity, doc⟩
  · exact .of_same fun _ _ _ => rfl
  · obtain ⟨p, missing, hw, hp⟩ := hf _ hr
    dsimp only at hw ⊢
    split
    · cases hw with
      | onValues hw =>
        have hrun (values : List String) := (hw r.signatures values).blind hp fun _ h => h.elim
        exact (Eval.Blind.valuesOf hargs).bind fun values => (hrun values).inFrame _
      | onArguments hw =>
        refine .inFrame ((hw r.signatures args).blind hp ?_) _
        rintro v ⟨a, ha, rfl⟩
        exact hargs a ha
    · exact .of_same fun _ _ _ => rfl

/-- A tree is blind if all functions that it calls are. -/
theorem blind_evalTree {r : Registry} (t : Tree)
    (h : ∀ call ∈ callsOf t, ∀ f, r.find? call.1 = some f → f.implementation.Blind S) :
    (evalTree r t).Blind S := by
  have cons {n : Node} {rest : Tree} (hn : (n.eval r).Blind S)
      (hrest : (evalTree r rest).Blind S) : (evalTree r (n :: rest)).Blind S := by
    rw [evalTree]
    exact hn.bind fun first => hrest.bind fun others => .pure (first ++ others)
  refine Tree.inductCalls (P := fun t => (evalTree r t).Blind S) ?nil ?text ?tag ?call t h
  case nil => exact evalTree.eq_1 r ▸ .pure ""
  case text =>
    intro content rest ih
    exact cons (Node.eval.eq_1 r content ▸ .pure content) ih
  case tag =>
    intro name rest ih
    refine cons (.of_same fun host host' s => ?_) ih
    rw [Node.eval, runFrom_tagValue, runFrom_tagValue]
  case call =>
    intro name args position rest hcall iha ih
    refine cons ?_ ih
    rw [Node.eval, argumentsOf_eq]
    refine Registry.blind_call hcall (fun a ha => ?_) position
    obtain ⟨t, ht, rfl⟩ := List.mem_map.mp ha
    exact iha t ht

/-- A session runs a script alike for two hosts if the tree of the script is run alike for them. -/
theorem Session.run_congr {s : Session} {source : String} {host host' : Host}
    (h : ∀ stamped, (s.parse source).1 = .ok stamped → ∀ state,
      (evalTree s.registry stamped.tree).runFrom host state
        = (evalTree s.registry stamped.tree).runFrom host' state) (tags : TagStore) :
    s.run source tags host = s.run source tags host' := by
  have hregistry := s.registry_parse source
  rw [Session.run, Session.run]
  rcases hp : s.parse source with ⟨e | stamped, s'⟩
  · rfl
  · rw [hp] at h hregistry
    have hsame := h stamped rfl ⟨tags, []⟩
    rw [← hregistry] at hsame
    dsimp only at hsame ⊢
    rw [hsame]

end Retag.Script

namespace Retag.Library

open Script

/-- The album of a file. -/
def albumOf (file : Option MediaFile) : Option Album := file.bind (·.album)

/-- Hosts with the same clock, whose files also have the same album if the tree calls a function that
asks for it, are the same to every run of the tree. -/
theorem blind_of_calls {S : Host → Host → Prop} (t : Tree)
    (hclock : ∀ host host', S host host' → host.clock = host'.clock)
    (halbum : (∃ call ∈ callsOf t, call.1 ∈ ["matchedtracks", "is_complete"]) →
      ∀ host host', S host host' → albumOf host.file = albumOf host'.file) :
    (evalTree standard t).Blind S := by
  refine blind_evalTree t fun call hcall f hf => ?_
  obtain ⟨hmem, hname⟩ := Registry.mem_of_find? hf
  refine ⟨_, _, standard_abide hmem, ?_, fun _ => hclock⟩
  intro hasks
  rw [hname] at hasks
  exact halbum ⟨call, hcall, hasks⟩

/-- A run without a file and a run for a file without an album are the same, whatever the script: they
end alike, with the same tags. A script that calls neither `matchedtracks` nor `is_complete`, at
whatever depth, runs alike for any two files. Both hold of every tree and of every run in a
session over the library. -/
theorem files_invisible (clock : Calendar.Moment) :
    (∀ (t : Tree) (s : RunState),
      (evalTree standard t).runFrom ⟨none, clock⟩ s
        = (evalTree standard t).runFrom ⟨some ⟨none⟩, clock⟩ s) ∧
    (∀ t : Tree, (∀ call ∈ callsOf t, call.1 ∉ ["matchedtracks", "is_complete"]) →
      ∀ (file file' : Option MediaFile) (s : RunState),
        (evalTree standard t).runFrom ⟨file, clock⟩ s
          = (evalTree standard t).runFrom ⟨file', clock⟩ s) ∧
    (∀ session : Session, session.registry = standard → ∀ (source : String) (tags : TagStore),
      session.run source tags ⟨none, clock⟩ = session.run source tags ⟨some ⟨none⟩, clock⟩ ∧
      ((∀ stamped, (session.parse source).1 = .ok stamped →
          ∀ call ∈ callsOf stamped.tree, call.1 ∉ ["matchedtracks", "is_complete"]) →
        ∀ file file' : Option MediaFile,
          session.run source tags ⟨file, clock⟩ = session.run source tags ⟨file', clock⟩)) := by
  have hnoAlbum (t : Tree) (s : RunState) : (evalTree standard t).runFrom ⟨none, clock⟩ s
      = (evalTree standard t).runFrom ⟨some ⟨none⟩, clock⟩ s := by
    have hblind : (evalTree standard t).Blind fun host host' =>
        host.clock = host'.clock ∧ albumOf host.file = albumOf host'.file :=
      blind_of_calls t (fun _ _ h => h.1) fun _ _ _ h => h.2
    exact hblind ⟨none, clock⟩ ⟨some ⟨none⟩, clock⟩ ⟨rfl, rfl⟩ s
  have hunasked (t : Tree) (ht : ∀ call ∈ callsOf t, call.1 ∉ ["matchedtracks", "is_complete"])
      (file file' : Option MediaFile) (s : RunState) :
      (evalTree standard t).runFrom ⟨file, clock⟩ s
        = (evalTree standard t).runFrom ⟨file', clock⟩ s := by
    have hblind : (evalTree standard t).Blind fun host host' => host.clock = host'.clock := by
      refine blind_of_calls t (fun _ _ h => h) ?_
      rintro ⟨call, hcall, hasks⟩
      exact absurd hasks (ht call hcall)
    exact hblind ⟨file, clock⟩ ⟨file', clock⟩ rfl s
  refine ⟨hnoAlbum, hunasked, fun session hr source tags => ⟨?_, fun hcalls file file' => ?_⟩⟩
  · refine Session.run_congr (fun stamped _ s => ?_) tags
    rw [hr]
    exact hnoAlbum stamped.tree s
  · refine Session.run_congr (fun stamped hparse s => ?_) tags
    rw [hr]
    exact hunasked stamped.tree (hcalls stamped hparse) file file' s

/-- A loop and an error for a file of an album and for none. The two functions that ask for the album
tell such a file from one without an album, and a tag keeps what they told. -/
theorem files_invisible_album :
    let clock : Calendar.Moment := ⟨⟨2024, 5, 6⟩, ⟨7, 8, 9, 0⟩, 0⟩
    let alone : Option MediaFile := some ⟨none⟩
    let matched : Option MediaFile := some ⟨some ⟨7, true⟩⟩
    let tags : TagStore := .ofPairs [("a", "x"), ("a", "y")]
    let source := "$foreach(%a%,$set(b,%_loop_value%))$is_video()$datetime(\\%)"
    let session : Session := { registry := standard }
    let silent : Tree := [.call "foreach" [[.tag "a"],
        [.call "set" [[.text "b"], [.tag "_loop_value"]] ⟨1, 14, 13⟩]] .start,
      .call "is_video" [] ⟨1, 36, 35⟩, .call "datetime" [[.text "%"]] ⟨1, 47, 46⟩]
    let asking : Tree := [.call "set" [[.text "c"], [.call "matchedtracks" [] ⟨1, 8, 7⟩]] .start,
      .tag "c", .call "is_complete" [] ⟨1, 28, 27⟩]
    (session.parse source).1 = .ok ⟨0, silent⟩ ∧
    ((evalTree standard silent).runFrom ⟨none, clock⟩ ⟨tags, []⟩).1
      = .error ⟨.unsupportedFormat "datetime", ⟨1, 47, 46⟩⟩ ∧
    (evalTree standard silent).runFrom ⟨none, clock⟩ ⟨tags, []⟩
      = (evalTree standard silent).runFrom ⟨matched, clock⟩ ⟨tags, []⟩ ∧
    session.run source tags ⟨none, clock⟩ = session.run source tags ⟨matched, clock⟩ ∧
    ((evalTree standard asking).runFrom ⟨none, clock⟩ ⟨tags, []⟩).1 = .ok "0" ∧
    (evalTree standard asking).runFrom ⟨none, clock⟩ ⟨tags, []⟩
      = (evalTree standard asking).runFrom ⟨alone, clock⟩ ⟨tags, []⟩ ∧
    ((evalTree standard asking).runFrom ⟨matched, clock⟩ ⟨tags, []⟩).1 = .ok "71" := by
  intro clock alone matched tags source session silent asking
  obtain ⟨hnoAlbum, hunasked, hsession⟩ := files_invisible clock
  have hread : parse standard.arity?
      "$foreach(%a%,$set(b,%_loop_value%))$is_video()$datetime(\\%)" = .ok silent := by
    rw [arity?_standard]
    rfl
  have hparse : (session.parse source).1 = .ok ⟨0, silent⟩ := by
    simp [session, source, Session.parse, hread]
  have hsilent : ∀ call ∈ callsOf silent, call.1 ∉ ["matchedtracks", "is_complete"] := by decide
  have hruns : session.run source tags ⟨none, clock⟩ = session.run source tags ⟨matched, clock⟩ := by
    refine (hsession session rfl source tags).2 (fun stamped h => ?_) none matched
    obtain rfl := Except.ok.inj (hparse.symm.trans h)
    exact hsilent
  refine ⟨hparse, ?_, hunasked silent hsilent none matched _, hruns, ?_, hnoAlbum asking _, ?_⟩ <;>
    rw [evalTree_standard] <;> rfl

end Retag.Library
