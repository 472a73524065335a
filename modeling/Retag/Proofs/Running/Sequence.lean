import Retag.Proofs.Grammar.Concatenation
import Retag.Proofs.Running.Indifference
import Retag.Proofs.Running.Sessions

/-!
# Running scripts one behind the other

A script that consists of two scripts is read as the one tree behind the other, so it runs the first
and, if that has a value, the second on the tags that the first left. Only the places in the errors
of the second differ.
-/

namespace Retag.Script

open Grammar

/-- The error of a script that stands behind a text ending at `p`. -/
def ScriptError.behind (p : Position) : ScriptError → ScriptError
  | .parse e => .parse (e.behind p)
  | .runtime e => .runtime (e.moved p.behind)

/-! ## Trees one behind the other -/

theorem evalTree_text (r : Registry) (x : String) (t : Tree) :
    evalTree r (.text x :: t) = (do return x ++ (← evalTree r t)) := by
  rw [evalTree, Node.eval, pure_bind]

theorem evalTree_prependText (r : Registry) (x : String) (t : Tree) :
    evalTree r (prependText x t) = (do return x ++ (← evalTree r t)) := by
  unfold prependText
  split
  · next y rest =>
    rw [evalTree_text, evalTree_text]
    simp only [bind_assoc, pure_bind, String.append_assoc]
  · exact evalTree_text r x t

/-- Two trees one behind the other run one after the other. -/
theorem evalTree_joined (r : Registry) (s t : Tree) :
    evalTree r (joined s t) = (do
      let first ← evalTree r s
      let second ← evalTree r t
      return first ++ second) := by
  fun_induction joined s t with
  | case1 t =>
    rw [evalTree]
    simp only [pure_bind, String.empty_append, bind_pure]
  | case2 x t =>
    rw [evalTree_prependText, evalTree_text, evalTree]
    simp only [pure_bind, String.append_empty]
  | case3 n rest t _ ih =>
    rw [evalTree, ih, evalTree]
    simp only [bind_assoc, pure_bind, String.append_assoc]

/-! ## Scripts one behind the other -/

/-- With functions that do the same wherever they are called, a script behind another runs on what
the other left as it runs alone. -/
theorem runAfresh_append {r : Registry} {a b : String} {s t : Tree}
    (hr : ∀ g ∈ r.functions, g.implementation.Follows (endOf a).behind)
    (ha : parse r.arity? a = .ok s) (hb : parse r.arity? b = .ok t) (tags : TagStore)
    (host : Host) :
    runAfresh r (a ++ b) tags host = match runAfresh r a tags host with
      | (.error e, after) => (.error e, after)
      | (.ok first, after) => match runAfresh r b after host with
        | (.error e, after) => (.error (e.behind (endOf a)), after)
        | (.ok second, after) => (.ok (first ++ second), after) := by
  have hab : parse r.arity? (a ++ b) = .ok (joined s (moved (endOf a).behind t)) := by
    rw [parse_append ha b, hb]
  obtain ⟨result, after, hs, -⟩ := evalTree_follows hr s [] host tags
  rw [runAfresh_of_ok hab, runAfresh_of_ok ha, evalTree_joined, Eval.runFrom_bind, hs]
  rcases result with e | first
  · rfl
  · obtain ⟨result, after', ht, ht'⟩ := evalTree_follows hr t [] host after
    rw [List.map_nil] at ht'
    dsimp only [Except.mapError]
    rw [runAfresh_of_ok hb, Eval.runFrom_bind, ht, ht']
    rcases result with e | second <;> rfl

/-- A session runs two scripts that stand one behind the other as it runs one and then the other. -/
theorem Session.run_append {session : Session} (h : session.Sound) {a b : String} {s t : Tree}
    (hr : ∀ g ∈ session.registry.functions, g.implementation.Follows (endOf a).behind)
    (ha : Script.parse session.registry.arity? a = .ok s)
    (hb : Script.parse session.registry.arity? b = .ok t) (tags : TagStore) (host : Host) :
    ((session.run (a ++ b) tags host).1, (session.run (a ++ b) tags host).2.1) =
      match session.run a tags host with
        | (.error e, after, _) => (.error e, after)
        | (.ok first, after, session) => match session.run b after host with
          | (.error e, after, _) => (.error (e.behind (endOf a)), after)
          | (.ok second, after, _) => (.ok (first ++ second), after) := by
  rw [h.run_eq, h.run_eq, Prod.eta, runAfresh_append hr ha hb]
  rcases runAfresh session.registry a tags host with ⟨e | first, after⟩
  · rfl
  · dsimp only
    rw [((session.reads_parse a).sound h).run_eq, session.registry_parse]
    rcases runAfresh session.registry b after host with ⟨e | second, after⟩ <;> rfl

/-- Behind a script that can be read, a second one is read as it is read alone, with its places
moved behind the first, and texts that meet are one text. With the standard library, whatever a
session was asked before, the whole runs as the first does and then, if that has a value, as the
second: the tags are the same, and the values follow one another or the error that stopped the run
names its place in the whole. -/
theorem scripts_concatenate :
    (∀ (r : Registry) (a : String) (s : Tree), parse r.arity? a = .ok s → ∀ b : String,
      parse r.arity? (a ++ b) = match parse r.arity? b with
        | .ok t => .ok (joined s (moved (endOf a).behind t))
        | .error e => .error (e.behind (endOf a))) ∧
    (∀ (requests : List Request) (a b : String) (s t : Tree),
      parse Library.standard.arity? a = .ok s → parse Library.standard.arity? b = .ok t →
      ∀ (tags : TagStore) (host : Host),
        let session := (Session.performAll { registry := Library.standard } requests).2
        ((session.run (a ++ b) tags host).1, (session.run (a ++ b) tags host).2.1) =
          match session.run a tags host with
            | (.error e, after, _) => (.error e, after)
            | (.ok first, after, session) => match session.run b after host with
              | (.error e, after, _) => (.error (e.behind (endOf a)), after)
              | (.ok second, after, _) => (.ok (first ++ second), after)) := by
  constructor
  · intro r a s ha b
    exact parse_append ha b
  · intro requests a b s t ha hb tags host session
    have hsound : session.Sound := (Session.sound_fresh _).performAll requests
    have hregistry : session.registry = Library.standard := Session.registry_performAll _ requests
    rw [← hregistry] at ha hb
    refine Session.run_append hsound ?_ ha hb tags host
    rw [hregistry]
    exact Library.standard_follows _

/-- The second script goes on with the last line and the last text of the first. Its error names the
place in the whole. -/
theorem scripts_concatenate_refused :
    let r := Library.standard
    let host : Host := ⟨none, ⟨⟨2024, 5, 6⟩, ⟨7, 8, 9, 0⟩, 0⟩⟩
    let whole := "x\nab" ++ "c%title%$datetime(\\%)"
    let session : Session := { registry := r }
    parse r.arity? "x\nab" = .ok [.text "x\nab"] ∧
    parse r.arity? "c%title%$datetime(\\%)"
      = .ok [.text "c", .tag "title", .call "datetime" [[.text "%"]] ⟨1, 9, 8⟩] ∧
    parse r.arity? whole = .ok [.text ("x\nab" ++ "c"), .tag "title",
      .call "datetime" [[.text "%"]] ⟨2, 11, 12⟩] ∧
    ((session.run whole .empty host).1, (session.run whole .empty host).2.1)
      = (.error (.runtime ⟨.unsupportedFormat "datetime", ⟨2, 11, 12⟩⟩), .empty) := by
  intro r host whole session
  have ha : parse r.arity? "x\nab" = .ok [.text "x\nab"] := rfl
  have hb : parse r.arity? "c%title%$datetime(\\%)"
      = .ok [.text "c", .tag "title", .call "datetime" [[.text "%"]] ⟨1, 9, 8⟩] := rfl
  have hread := scripts_concatenate.1 r _ _ ha "c%title%$datetime(\\%)"
  rw [hb] at hread
  have hfirst : (evalTree r [.text "x\nab"]).runFrom host ⟨.empty, []⟩
      = (.ok "x\nab", ⟨.empty, []⟩) := rfl
  have hsecond : (evalTree r [.text "c", .tag "title",
      .call "datetime" [[.text "%"]] ⟨1, 9, 8⟩]).runFrom host ⟨.empty, []⟩
      = (.error ⟨.unsupportedFormat "datetime", ⟨1, 9, 8⟩⟩, ⟨.empty, []⟩) := rfl
  have hsound := Session.sound_fresh r
  have hone : session.run "x\nab" .empty host
      = (.ok "x\nab", .empty, (session.parse "x\nab").2) := by
    rw [hsound.run_eq, runAfresh_of_ok ha, hfirst]
    rfl
  have htwo : (session.parse "x\nab").2.run "c%title%$datetime(\\%)" .empty host
      = (.error (.runtime ⟨.unsupportedFormat "datetime", ⟨1, 9, 8⟩⟩), .empty,
        ((session.parse "x\nab").2.parse "c%title%$datetime(\\%)").2) := by
    rw [((session.reads_parse _).sound hsound).run_eq, Session.registry_parse,
      runAfresh_of_ok hb, hsecond]
    rfl
  have hrun := scripts_concatenate.2 [] _ _ _ _ ha hb .empty host
  refine ⟨ha, hb, hread, ?_⟩
  -- The sessions are compared as they are written, never by running them.
  simp only [session, r, host, whole, Session.performAll] at hone htwo hrun ⊢
  simp only [hrun, hone, htwo]
  rfl

end Retag.Script
