import Mathlib.Data.List.Dedup
import Retag.Proofs.Running.Calls

/-!
# Sessions answer as if every script were read anew

Whatever a session was asked before, it runs and reads a script as a session without a memory does.
It keeps the trees of the scripts that it could read since it was cleared, and those only, and the
stamp of an answer says which reading it came from.
-/

namespace Retag.Script

/-! ## Requests and their answers -/

/-- What a session can be asked for. -/
inductive Request where
  | run (source : String) (tags : TagStore) (host : Host)
  | parse (source : String)
  | clear

/-- What a request leads to: the end of a run with the tags behind it, or the end of a reading. -/
inductive Answer (Reading : Type) where
  | ran (result : Except ScriptError String) (tags : TagStore)
  | parsed (result : Except ParseError Reading)
  | cleared

def Answer.map {α β : Type} (f : α → β) : Answer α → Answer β
  | .ran result tags => .ran result tags
  | .parsed result => .parsed (result.map f)
  | .cleared => .cleared

namespace Session

/-- The answer to a request, and the session afterwards. -/
def perform (s : Session) : Request → Answer StampedTree × Session
  | .run source tags host => (.ran (s.run source tags host).1 (s.run source tags host).2.1,
      (s.run source tags host).2.2)
  | .parse source => (.parsed (s.parse source).1, (s.parse source).2)
  | .clear => (.cleared, s.clear)

/-- The answers to requests one after the other, and the session after all of them. -/
def performAll (s : Session) : List Request → List (Answer StampedTree) × Session
  | [] => ([], s)
  | request :: rest =>
    ((s.perform request).1 :: ((s.perform request).2.performAll rest).1,
      ((s.perform request).2.performAll rest).2)

end Session

/-- A run of a script that is read for this run alone. -/
def runAfresh (r : Registry) (source : String) (tags : TagStore) (host : Host) :
    Except ScriptError String × TagStore :=
  match parse r.arity? source with
  | .error e => (.error (.parse e), tags)
  | .ok tree =>
    let (result, after) := (evalTree r tree).runFrom host ⟨tags, []⟩
    (result.mapError .runtime, after.tags)

theorem runAfresh_of_ok {r : Registry} {source : String} {tree : Tree}
    (h : parse r.arity? source = .ok tree) (tags : TagStore) (host : Host) :
    runAfresh r source tags host =
      let run := (evalTree r tree).runFrom host ⟨tags, []⟩
      (run.1.mapError .runtime, run.2.tags) := by
  rw [runAfresh, h]

/-- The answer without a memory. -/
def Request.afresh (r : Registry) : Request → Answer Tree
  | .run source tags host => .ran (runAfresh r source tags host).1 (runAfresh r source tags host).2
  | .parse source => .parsed (Script.parse r.arity? source)
  | .clear => .cleared

/-- The source that a request is about. -/
def Request.source? : Request → Option String
  | .run source _ _ => some source
  | .parse source => some source
  | .clear => none

/-- The sources that were asked for since the last time that the session was cleared, given those
before the requests. -/
def askedAfter (sources : List String) : List Request → List String
  | [] => sources
  | request :: rest =>
    askedAfter (match request.source? with
      | some source => source :: sources
      | none => []) rest

def Readable (r : Registry) (source : String) : Prop := ∃ tree, parse r.arity? source = .ok tree

instance (r : Registry) : DecidablePred (Readable r) := fun source =>
  match h : parse r.arity? source with
  | .ok tree => .isTrue ⟨tree, h⟩
  | .error e => .isFalse fun ⟨tree, ht⟩ => by rw [h] at ht; cases ht

namespace Session

/-! ## One reading -/

/-- The session that also keeps a tree, under the next stamp. -/
def keeping (s : Session) (source : String) (tree : Tree) : Session :=
  { s with kept := (source, ⟨s.next, tree⟩) :: s.kept, next := s.next + 1 }

/-- What a session does to read a source: it has kept the tree, or reads and keeps it, or fails. -/
inductive Reads (s : Session) (source : String) : Except ParseError StampedTree → Session → Prop
  | kept {x : StampedTree} : s.kept.lookup source = some x → s.Reads source (.ok x) s
  | anew {tree : Tree} : s.kept.lookup source = none →
      Script.parse s.registry.arity? source = .ok tree →
      s.Reads source (.ok ⟨s.next, tree⟩) (s.keeping source tree)
  | failed {e : ParseError} : s.kept.lookup source = none →
      Script.parse s.registry.arity? source = .error e → s.Reads source (.error e) s

theorem reads_parse (s : Session) (source : String) :
    s.Reads source (s.parse source).1 (s.parse source).2 := by
  rw [Session.parse]
  rcases hk : s.kept.lookup source with _ | x
  · rcases hp : Script.parse s.registry.arity? source with e | tree
    · exact .failed hk hp
    · exact .anew hk hp
  · exact .kept hk

/-- What is kept was read from its source, once for each source, under stamps that are used up. -/
structure Sound (s : Session) : Prop where
  parsed : ∀ source x, (source, x) ∈ s.kept → Script.parse s.registry.arity? source = .ok x.tree
  sources : (s.kept.map (·.1)).Nodup
  stamps : (s.kept.map (·.2.stamp)).Nodup
  used : ∀ source x, (source, x) ∈ s.kept → x.stamp < s.next

theorem sound_fresh (r : Registry) : Sound { registry := r } :=
  ⟨nofun, .nil, .nil, nofun⟩

theorem lookup_eq_none_iff {s : Session} {source : String} :
    s.kept.lookup source = none ↔ ∀ x, (source, x) ∉ s.kept := by
  rw [List.lookup_eq_none_iff]
  constructor
  · intro h x hx
    simpa using h _ hx
  · rintro h ⟨source', x⟩ hx
    rw [bne_iff_ne]
    rintro rfl
    exact h x hx

theorem mem_of_lookup {s : Session} {source : String} {x : StampedTree}
    (h : s.kept.lookup source = some x) : (source, x) ∈ s.kept := by
  obtain ⟨front, back, hkept, -⟩ := List.lookup_eq_some_iff.mp h
  rw [hkept]
  exact List.mem_append_right _ (List.mem_cons_self ..)

theorem Sound.keeping {s : Session} (h : s.Sound) {source : String} {tree : Tree}
    (hl : s.kept.lookup source = none) (hp : Script.parse s.registry.arity? source = .ok tree) :
    (s.keeping source tree).Sound := by
  constructor
  · intro source' x hx
    rcases List.mem_cons.mp hx with hx | hx
    · cases hx
      exact hp
    · exact h.parsed source' x hx
  · refine List.nodup_cons.mpr ⟨fun hmem => ?_, h.sources⟩
    obtain ⟨⟨source', x⟩, hx, rfl⟩ := List.mem_map.mp hmem
    exact lookup_eq_none_iff.mp hl x hx
  · refine List.nodup_cons.mpr ⟨fun hmem => ?_, h.stamps⟩
    obtain ⟨⟨source', x⟩, hx, hstamp⟩ := List.mem_map.mp hmem
    exact absurd hstamp (Nat.ne_of_lt (h.used source' x hx))
  · intro source' x hx
    rcases List.mem_cons.mp hx with hx | hx
    · cases hx
      exact Nat.lt_succ_self _
    · exact Nat.lt_succ_of_lt (h.used source' x hx)

theorem parse_of_lookup {s : Session} {source : String} {x : StampedTree}
    (h : s.kept.lookup source = some x) : s.parse source = (.ok x, s) := by
  rw [Session.parse, h]

theorem holds_iff {s : Session} {source : String} :
    s.holds source = true ↔ ∃ x, s.kept.lookup source = some x := by
  rw [holds, Option.isSome_iff_exists]

section Reads

variable {s s' : Session} {source other : String} {result : Except ParseError StampedTree}
  {x : StampedTree}

theorem Reads.sound (hr : s.Reads source result s') (h : s.Sound) : s'.Sound := by
  cases hr with
  | kept _ => exact h
  | anew hl hp => exact h.keeping hl hp
  | failed _ _ => exact h

/-- Up to its stamp, what a session reads is what anyone reads. -/
theorem Reads.result_eq (hr : s.Reads source result s') (h : s.Sound) :
    result.map (·.tree) = Script.parse s.registry.arity? source := by
  cases hr with
  | kept hl => exact (h.parsed _ _ (mem_of_lookup hl)).symm
  | anew _ hp => exact hp.symm
  | failed _ hp => exact hp.symm

/-- What a session has read it has kept. -/
theorem Reads.lookup_self (hr : s.Reads source (.ok x) s') : s'.kept.lookup source = some x := by
  cases hr with
  | kept hl => exact hl
  | anew _ _ => exact List.lookup_cons_self

theorem Reads.lookup_of_some (hr : s.Reads other result s') (h : s.kept.lookup source = some x) :
    s'.kept.lookup source = some x := by
  cases hr with
  | kept _ => exact h
  | failed _ _ => exact h
  | anew hl _ =>
    have hne : (source == other) = false := by
      rw [beq_eq_false_iff_ne]
      rintro rfl
      rw [h] at hl
      cases hl
    rw [keeping, List.lookup_cons, hne]
    exact h

/-- A reading adds its source to those that are kept, if it can be read. -/
theorem Reads.holds_iff (hr : s.Reads source result s') (other : String) :
    s'.holds other = true ↔
      s.holds other = true ∨ other = source ∧ Readable s.registry source := by
  cases hr with
  | @kept x hl =>
    refine ⟨.inl, fun hor => hor.elim id ?_⟩
    rintro ⟨rfl, -⟩
    exact Session.holds_iff.mpr ⟨x, hl⟩
  | failed _ hp =>
    refine ⟨.inl, fun hor => hor.elim id ?_⟩
    rintro ⟨-, tree, ht⟩
    rw [hp] at ht
    cases ht
  | @anew tree hl hp =>
    by_cases he : other = source
    · subst he
      refine ⟨fun _ => .inr ⟨rfl, tree, hp⟩, fun _ => ?_⟩
      exact Session.holds_iff.mpr ⟨_, List.lookup_cons_self⟩
    · have hne : (other == source) = false := beq_eq_false_iff_ne.mpr he
      have hsame : (s.keeping source tree).holds other = s.holds other := by
        rw [holds, holds, keeping, List.lookup_cons, hne]
      rw [hsame]
      exact ⟨.inl, fun hor => hor.elim id fun hand => absurd hand.1 he⟩

theorem Reads.next_le (hr : s.Reads source result s') : s.next ≤ s'.next := by
  cases hr with
  | kept _ => exact Nat.le_refl _
  | anew _ _ => exact Nat.le_succ _
  | failed _ _ => exact Nat.le_refl _

/-- The stamps of before are not given again. -/
theorem Reads.mem_of_mem (hr : s.Reads other result s') (h : (source, x) ∈ s'.kept)
    (hx : x.stamp < s.next) : (source, x) ∈ s.kept := by
  cases hr with
  | kept _ => exact h
  | failed _ _ => exact h
  | anew _ _ =>
    rcases List.mem_cons.mp h with he | h
    · cases he
      exact absurd hx (Nat.lt_irrefl _)
    · exact h

theorem lookup_parse_of_ok (h : (s.parse source).1 = .ok x) :
    (s.parse source).2.kept.lookup source = some x := by
  have hr := s.reads_parse source
  rw [h] at hr
  exact hr.lookup_self

end Reads

/-! ## One request -/

/-- A run reads its script and forgets nothing of it, however it ends. -/
theorem run_session (s : Session) (source : String) (tags : TagStore) (host : Host) :
    (s.run source tags host).2.2 = (s.parse source).2 := by
  rw [Session.run]
  rcases s.parse source with ⟨e | x, s'⟩
  · rfl
  · dsimp only
    rcases (evalTree s'.registry x.tree).runFrom host ⟨tags, []⟩ with ⟨e | value, after⟩ <;> rfl

/-- A session runs a script as if it read it for this run. -/
theorem Sound.run_eq {s : Session} (h : s.Sound) (source : String) (tags : TagStore) (host : Host) :
    s.run source tags host = ((runAfresh s.registry source tags host).1,
      (runAfresh s.registry source tags host).2, (s.parse source).2) := by
  have htree := (s.reads_parse source).result_eq h
  have hregistry := s.registry_parse source
  rw [Session.run, runAfresh, ← htree]
  rcases hr : s.parse source with ⟨e | x, s'⟩
  · rfl
  · rw [hr] at hregistry
    dsimp only [Except.map] at hregistry ⊢
    rw [hregistry]
    rcases (evalTree s.registry x.tree).runFrom host ⟨tags, []⟩ with ⟨e | value, after⟩ <;> rfl

theorem perform_session (s : Session) (request : Request) :
    (s.perform request).2 = match request.source? with
      | some source => (s.parse source).2
      | none => s.clear := by
  cases request with
  | run source tags host => exact s.run_session source tags host
  | parse source => rfl
  | clear => rfl

theorem registry_perform (s : Session) (request : Request) :
    (s.perform request).2.registry = s.registry := by
  rw [perform_session]
  split
  · exact s.registry_parse _
  · rfl

theorem Sound.perform {s : Session} (h : s.Sound) (request : Request) :
    (s.perform request).2.Sound := by
  rw [perform_session]
  split
  · exact (s.reads_parse _).sound h
  · exact ⟨nofun, .nil, .nil, nofun⟩

theorem Sound.answer {s : Session} (h : s.Sound) (request : Request) :
    (s.perform request).1.map (·.tree) = request.afresh s.registry := by
  cases request with
  | run source tags host =>
    rw [Session.perform, Answer.map, Request.afresh, h.run_eq]
  | parse source =>
    rw [Session.perform, Answer.map, Request.afresh, (s.reads_parse source).result_eq h]
  | clear => rfl

/-! ## Any number of requests -/

theorem registry_performAll (s : Session) (requests : List Request) :
    (s.performAll requests).2.registry = s.registry := by
  induction requests generalizing s with
  | nil => rfl
  | cons request rest ih => exact (ih _).trans (s.registry_perform request)

theorem Sound.performAll {s : Session} (h : s.Sound) (requests : List Request) :
    (s.performAll requests).2.Sound := by
  induction requests generalizing s with
  | nil => exact h
  | cons request rest ih => exact ih (h.perform request)

theorem Sound.answers {s : Session} (h : s.Sound) (requests : List Request) :
    (s.performAll requests).1.map (Answer.map (·.tree)) = requests.map (·.afresh s.registry) := by
  induction requests generalizing s with
  | nil => rfl
  | cons request rest ih =>
    rw [Session.performAll, List.map_cons, List.map_cons, h.answer, ih (h.perform request),
      registry_perform]

/-- A session keeps the sources among those asked for that can be read. -/
def Remembers (s : Session) (sources : List String) : Prop :=
  ∀ source, s.holds source = true ↔ source ∈ sources ∧ Readable s.registry source

theorem Sound.remembers {s : Session} (h : s.Sound) {sources : List String}
    (hr : s.Remembers sources) (requests : List Request) :
    (s.performAll requests).2.Remembers (askedAfter sources requests) := by
  induction requests generalizing s sources with
  | nil => exact hr
  | cons request rest ih =>
    refine ih (h.perform request) fun other => ?_
    rw [registry_perform, perform_session]
    split
    · rw [(s.reads_parse _).holds_iff, hr other, List.mem_cons]
      grind
    · simp [Session.clear, holds]

/-- Without a clear a tree that is kept stays. -/
theorem lookup_performAll {s : Session} {source : String} {x : StampedTree}
    (h : s.kept.lookup source = some x) {requests : List Request} (hc : .clear ∉ requests) :
    (s.performAll requests).2.kept.lookup source = some x := by
  induction requests generalizing s with
  | nil => exact h
  | cons request rest ih =>
    obtain ⟨hne, hc⟩ := List.ne_and_not_mem_of_not_mem_cons hc
    refine ih ?_ hc
    rw [perform_session]
    cases request with
    | run other _ _ => exact (s.reads_parse other).lookup_of_some h
    | parse other => exact (s.reads_parse other).lookup_of_some h
    | clear => exact absurd rfl hne

/-- A tree with an old stamp was kept all the time. -/
theorem mem_of_mem_performAll {s : Session} {source : String} {x : StampedTree}
    {requests : List Request} (h : (source, x) ∈ (s.performAll requests).2.kept)
    (hx : x.stamp < s.next) : (source, x) ∈ s.kept ∧ .clear ∉ requests := by
  induction requests generalizing s with
  | nil => exact ⟨h, List.not_mem_nil⟩
  | cons request rest ih =>
    have hparse {other : String} (hs : (s.perform request).2 = (s.parse other).2) :
        (source, x) ∈ s.kept ∧ Request.clear ∉ rest := by
      have hlt : x.stamp < (s.perform request).2.next := by
        rw [hs]
        exact Nat.lt_of_lt_of_le hx (s.reads_parse other).next_le
      obtain ⟨hmem, hc⟩ := ih h hlt
      rw [hs] at hmem
      exact ⟨(s.reads_parse other).mem_of_mem hmem hx, hc⟩
    cases request with
    | run other tags host =>
      obtain ⟨hmem, hc⟩ := hparse (s.run_session other tags host)
      exact ⟨hmem, by simpa using hc⟩
    | parse other =>
      obtain ⟨hmem, hc⟩ := hparse rfl
      exact ⟨hmem, by simpa using hc⟩
    | clear =>
      obtain ⟨hmem, -⟩ := ih h hx
      cases hmem

/-! ## What a session keeps -/

theorem Sound.kept_iff {s : Session} (h : s.Sound) {sources : List String}
    (hr : s.Remembers sources) {source : String} {tree : Tree} :
    (s.kept.lookup source).map (·.tree) = some tree ↔
      source ∈ sources ∧ Script.parse s.registry.arity? source = .ok tree := by
  constructor
  · intro hm
    obtain ⟨x, hx, rfl⟩ := Option.map_eq_some_iff.mp hm
    have hmem := (hr source).mp (holds_iff.mpr ⟨x, hx⟩)
    exact ⟨hmem.1, h.parsed source x (mem_of_lookup hx)⟩
  · rintro ⟨hmem, hp⟩
    obtain ⟨x, hx⟩ := holds_iff.mp ((hr source).mpr ⟨hmem, tree, hp⟩)
    have hsame := h.parsed source x (mem_of_lookup hx)
    rw [hp] at hsame
    rw [hx, Option.map_some, Except.ok.inj hsame]

theorem mem_sources_iff {s : Session} {source : String} :
    source ∈ s.kept.map (·.1) ↔ s.holds source = true := by
  rw [List.mem_map, holds, List.lookup_isSome_iff]
  constructor
  · rintro ⟨entry, hmem, rfl⟩
    exact ⟨entry, hmem, beq_self_eq_true _⟩
  · rintro ⟨entry, hmem, he⟩
    exact ⟨entry, hmem, (eq_of_beq he).symm⟩

theorem Sound.size_eq {s : Session} (h : s.Sound) {sources : List String}
    (hr : s.Remembers sources) :
    s.size = (sources.dedup.filter (Readable s.registry)).length := by
  have hperm : List.Perm (s.kept.map (·.1)) (sources.dedup.filter (Readable s.registry)) := by
    have hnodup := sources.nodup_dedup.filter (Readable s.registry)
    refine (List.perm_ext_iff_of_nodup h.sources hnodup).mpr fun source => ?_
    rw [mem_sources_iff, hr source, List.mem_filter, List.mem_dedup, decide_eq_true_iff]
  rw [size, ← hperm.length_eq, List.length_map]

/-- A script that cannot be read changes nothing. -/
theorem Sound.run_of_error {s : Session} (h : s.Sound) {source : String} {e : ParseError}
    (he : Script.parse s.registry.arity? source = .error e) (tags : TagStore) (host : Host) :
    s.run source tags host = (.error (.parse e), tags, s) := by
  have hr := s.reads_parse source
  rw [Session.run]
  rcases hp : s.parse source with ⟨result, s'⟩
  rw [hp] at hr
  cases hr with
  | @kept x hl =>
    have hx := h.parsed source x (mem_of_lookup hl)
    rw [he] at hx
    cases hx
  | anew _ hp' =>
    rw [he] at hp'
    cases hp'
  | failed _ hp' =>
    rw [he] at hp'
    rw [Except.error.inj hp']

/-- A run that gets as far as an error of its own has kept its tree. -/
theorem lookup_run_of_runtime {s : Session} {source : String} {tags : TagStore} {host : Host}
    {e : RuntimeError} (he : (s.run source tags host).1 = .error (.runtime e)) :
    ∃ x, (s.run source tags host).2.2.kept.lookup source = some x := by
  rw [run_session]
  rcases hp : (s.parse source).1 with e' | x
  · have hrun : (s.run source tags host).1 = .error (.parse e') := by
      rw [Session.run]
      rcases hs : s.parse source with ⟨result, s'⟩
      rw [hs] at hp
      dsimp only at hp
      rw [hp]
    rw [hrun] at he
    cases he
  · exact ⟨x, lookup_parse_of_ok hp⟩

theorem performAll_concat (s : Session) (requests : List Request) (request : Request) :
    (s.performAll (requests ++ [request])).2 = ((s.performAll requests).2.perform request).2 := by
  induction requests generalizing s with
  | nil => rfl
  | cons first rest ih => exact ih _

/-- Answers with one stamp come from one reading. -/
theorem Sound.eq_of_stamp {s : Session} (h : s.Sound) {source source' : String}
    {x y : StampedTree} {between : List Request} (hx : (s.parse source).1 = .ok x)
    (hy : (((s.parse source).2.performAll between).2.parse source').1 = .ok y)
    (hstamp : y.stamp = x.stamp) : source' = source ∧ .clear ∉ between := by
  have hs := (s.reads_parse source).sound h
  have hxmem := mem_of_lookup (lookup_parse_of_ok hx)
  have hymem :
      (source', y) ∈ ((s.parse source).2.performAll (between ++ [.parse source'])).2.kept := by
    rw [performAll_concat]
    exact mem_of_lookup (lookup_parse_of_ok hy)
  have hold : y.stamp < (s.parse source).2.next := by
    rw [hstamp]
    exact hs.used source x hxmem
  obtain ⟨hymem, hc⟩ := mem_of_mem_performAll hymem hold
  have heq := List.inj_on_of_nodup_map hs.stamps hymem hxmem hstamp
  exact ⟨(Prod.mk.inj heq).1, fun hmem => hc (List.mem_append_left _ hmem)⟩

end Session

/-- A session answers every request as if it had no memory, and it keeps exactly the sources that
were asked for since the last clear and can be read, each with the tree that reading it gives. A
script that cannot be read leaves the tags and the session alone; one that stops with an error of
its run has been kept. What is asked for again without a clear in between is the same reading, and
only that is. -/
theorem sessions_transparent {r : Registry} {requests : List Request}
    {answers : List (Answer StampedTree)} {s : Session}
    (h : Session.performAll { registry := r } requests = (answers, s)) :
    answers.map (Answer.map (·.tree)) = requests.map (·.afresh r) ∧
    (∀ source tree, (s.kept.lookup source).map (·.tree) = some tree ↔
      source ∈ askedAfter [] requests ∧ parse r.arity? source = .ok tree) ∧
    (∀ source, s.holds source = true ↔ source ∈ askedAfter [] requests ∧ Readable r source) ∧
    s.size = ((askedAfter [] requests).dedup.filter (Readable r)).length ∧
    (∀ source e, parse r.arity? source = .error e → ∀ tags host,
      s.run source tags host = (.error (.parse e), tags, s)) ∧
    (∀ source tags host e, (s.run source tags host).1 = .error (.runtime e) →
      ∃ x, (s.run source tags host).2.2.kept.lookup source = some x ∧
        parse r.arity? source = .ok x.tree) ∧
    (∀ source x between, (s.parse source).1 = .ok x → .clear ∉ between →
      (((s.parse source).2.performAll between).2.parse source).1 = .ok x) ∧
    (∀ source source' x y between, (s.parse source).1 = .ok x →
      (((s.parse source).2.performAll between).2.parse source').1 = .ok y → y.stamp = x.stamp →
        source' = source ∧ .clear ∉ between) := by
  have hfresh := Session.sound_fresh r
  have hs : s.Sound := by
    have hall := hfresh.performAll requests
    rwa [h] at hall
  have hregistry : s.registry = r := by
    have hall := Session.registry_performAll { registry := r } requests
    rwa [h] at hall
  have hremembers : s.Remembers (askedAfter [] requests) := by
    have hnone : Session.Remembers { registry := r } [] := fun source => by simp [Session.holds]
    have hall := hfresh.remembers hnone requests
    rwa [h] at hall
  refine ⟨?answers, ?kept, ?holds, ?size, ?unreadable, ?stopped, ?again, ?stamps⟩
  case answers =>
    have hall := hfresh.answers requests
    rwa [h] at hall
  case kept =>
    intro source tree
    rw [hs.kept_iff hremembers, hregistry]
  case holds => exact hregistry ▸ hremembers
  case size => exact hregistry ▸ hs.size_eq hremembers
  case unreadable =>
    intro source e he tags host
    exact hs.run_of_error (hregistry.symm ▸ he) tags host
  case stopped =>
    intro source tags host e he
    obtain ⟨x, hx⟩ := Session.lookup_run_of_runtime he
    refine ⟨x, hx, ?_⟩
    rw [Session.run_session] at hx
    have hp := ((s.reads_parse source).sound hs).parsed source x (Session.mem_of_lookup hx)
    rwa [Session.registry_parse, hregistry] at hp
  case again =>
    intro source x between hx hc
    have hkept := Session.lookup_performAll (Session.lookup_parse_of_ok hx) hc
    rw [Session.parse_of_lookup hkept]
  case stamps =>
    intro source source' x y between hx hy hstamp
    exact hs.eq_of_stamp hx hy hstamp

/-- After a clear one source is kept. One that cannot be read is not, one that stops is, and the
kept one is found again behind both. -/
theorem sessions_transparent_kept :
    let stopped : RuntimeError := ⟨.unsupportedFormat "stop", .start⟩
    let r : Registry := ⟨[⟨"stop", .eager fun _ => throw stopped, .any, ""⟩]⟩
    let host : Host := ⟨none, ⟨⟨2024, 5, 6⟩, ⟨7, 8, 9, 0⟩, 0⟩⟩
    let title : StampedTree := ⟨1, [.tag "title"]⟩
    let s : Session := ⟨r, [("%title%", title)], 2⟩
    let unknown : ParseError := ⟨.unknownFunction "nope", .start⟩
    let between : List Request := [.parse "$nope()", .run "$stop()" .empty host]
    let again := (((s.parse "%title%").2.performAll between).2.parse "%title%").1
    Session.performAll { registry := r } [.parse "$stop()", .clear, .parse "%title%"]
      = ([.parsed (.ok ⟨0, [.call "stop" [] .start]⟩), .cleared, .parsed (.ok title)], s) ∧
    s.size = (["%title%"].dedup.filter (Readable r)).length ∧
    parse r.arity? "$nope()" = .error unknown ∧
    s.run "$nope()" .empty host = (.error (.parse unknown), .empty, s) ∧
    (s.run "$stop()" .empty host).1 = .error (.runtime stopped) ∧
    (∃ x, (s.run "$stop()" .empty host).2.2.kept.lookup "$stop()" = some x ∧
      parse r.arity? "$stop()" = .ok x.tree) ∧
    (s.parse "%title%").1 = .ok title ∧ .clear ∉ between ∧ again = .ok title ∧
    "%title%" = "%title%" ∧ .clear ∉ between := by
  intro stopped r host title s unknown between again
  have hall : Session.performAll { registry := r } [.parse "$stop()", .clear, .parse "%title%"]
      = ([.parsed (.ok ⟨0, [.call "stop" [] .start]⟩), .cleared, .parsed (.ok title)], s) := rfl
  obtain ⟨-, -, -, hsize, hunreadable, hstopped, hagain, hstamps⟩ := sessions_transparent hall
  have hunknown : parse r.arity? "$nope()" = .error unknown := rfl
  have hrun : (s.run "$stop()" .empty host).1 = .error (.runtime stopped) := by decide +kernel
  have htitle : (s.parse "%title%").1 = .ok title := rfl
  have hbetween : .clear ∉ between := by simp [between]
  have hsame : again = .ok title := hagain _ _ _ htitle hbetween
  exact ⟨hall, hsize, hunknown, hunreadable _ _ hunknown _ _, hrun, hstopped _ _ _ _ hrun, htitle,
    hbetween, hsame, hstamps _ _ _ _ _ htitle hsame rfl⟩

end Retag.Script
