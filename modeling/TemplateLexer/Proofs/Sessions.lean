import Mathlib.Data.List.Induction
import TemplateLexer.Proofs.Outcome
import TemplateLexer.Session
/-!
Sessions. Leaving brings back the settings that were in force before the matching entering, and a
lexer goes on under the settings that it was made with, whatever is in force when it is used.
-/

set_option autoImplicit false

namespace TemplateLexer

namespace Ambient

variable {α β : Type} {x : Ambient α} {f : α → Ambient β} {active active' : Active Settings}
  {log log' : List LogEntry}

theorem bind_of_ok {a : α} (h : x active log = ((.ok a, active'), log')) :
    (x >>= f) active log = f a active' log' := by
  show (ExceptT.bind x f) active log = _
  simp only [ExceptT.bind, ExceptT.mk, bind, StateT.bind, ExceptT.bindCont, h]

theorem bind_of_error {e : Failure} (h : x active log = ((.error e, active'), log')) :
    (x >>= f) active log = ((.error e, active'), log') := by
  show (ExceptT.bind x f) active log = _
  simp only [ExceptT.bind, ExceptT.mk, bind, StateT.bind, ExceptT.bindCont, h]
  rfl

theorem lift_bind (m : Logged α) (g : α → Logged β) :
    lift (m >>= g) = lift m >>= fun a => lift (g a) := by
  funext active log
  obtain ⟨r, mid, hm⟩ : ∃ r mid, m log = (r, mid) := ⟨_, _, rfl⟩
  have hlift : lift m active log = ((r, active), mid) := by rw [lift, hm]
  cases r with
  | error e => rw [bind_of_error hlift, lift, Logged.bind_of_error hm]
  | ok a => rw [bind_of_ok hlift, lift, Logged.bind_of_ok hm, lift]

theorem run_lift (m : Logged α) (active : Active Settings) :
    (lift m).run active = ((m.run.1, active), m.run.2) := rfl

end Ambient

namespace Lexer

theorem scan_eq (l : Lexer) (d : Markup.Document) (file : Option String) :
    l.scan d file = Ambient.lift (Document.lex l.settings.policy d file) := by
  rw [Document.lex, Pass.start]
  simp only [Ambient.lift_bind, bind_assoc]
  rfl

theorem run_scan (l : Lexer) (d : Markup.Document) (file : Option String)
    (active : Active Settings) :
    (l.scan d file).run active = (((Document.lex l.settings.policy d file).run.1, active),
      (Document.lex l.settings.policy d file).run.2) := by
  rw [scan_eq, Ambient.run_lift]

theorem run_create (given : Option Settings) (active : Active Settings) :
    (create given).run active = ((.ok ⟨given.getD active.current⟩, active), []) := by
  cases given <;> rfl

end Lexer

theorem Ambient.run_lex (given : Option Settings) (d : Markup.Document) (file : Option String)
    (active : Active Settings) :
    (Ambient.lex given d file).run active
      = (((Document.lex (given.getD active.current).policy d file).run.1, active),
        (Document.lex (given.getD active.current).policy d file).run.2) := by
  have hscan := Lexer.run_scan ⟨given.getD active.current⟩ d file active
  rw [← hscan]
  exact bind_of_ok (Lexer.run_create given active)

namespace Session

namespace Step

def isLeave : Step → Bool
  | exit | raise => true
  | _ => false

def isPlain : Step → Bool
  | enter _ | exit | raise => false
  | _ => true

def isUse : Step → Bool
  | create _ | scan _ _ _ | lex _ _ _ => true
  | _ => false

theorem isPlain_or (t : Step) : t.isPlain ∨ t.isLeave ∨ ∃ c, t = enter c := by
  cases t <;> simp [isPlain, isLeave]

end Step

variable {s : Session} {t : Step} {pre ts inside : List Step} {c p : Settings}
  {rest : List Settings} {i : Nat} {l : Lexer} {d : Markup.Document} {file : Option String}

theorem run_cons (s : Session) (t : Step) (ts : List Step) :
    s.run (t :: ts) = ((s.step t).1 :: ((s.step t).2.run ts).1, ((s.step t).2.run ts).2) := rfl

theorem run_append (s : Session) (ts ts' : List Step) :
    s.run (ts ++ ts') = ((s.run ts).1 ++ ((s.run ts).2.run ts').1, ((s.run ts).2.run ts').2) := by
  induction ts generalizing s with
  | nil => rfl
  | cons t ts ih => rw [List.cons_append, run_cons, ih]; rfl

theorem run_concat (s : Session) (ts : List Step) (t : Step) :
    (s.run (ts ++ [t])).2 = ((s.run ts).2.step t).2 := by
  rw [run_append]
  rfl

theorem after_append (ts ts' : List Step) : after (ts ++ ts') = ((after ts).run ts').2 := by
  rw [after, run_append]
  rfl

theorem after_concat (ts : List Step) (t : Step) : after (ts ++ [t]) = ((after ts).step t).2 :=
  after_append ts [t]

/-- What a document comes to under some settings, for a step. -/
def lexed (settings : Settings) (d : Markup.Document) (file : Option String) : Outcome :=
  ((Document.lex settings.policy d file).run.1.map .stream,
    (Document.lex settings.policy d file).run.2)

theorem made_lexed (settings : Settings) (d : Markup.Document) (file : Option String) :
    (lexed settings d file).made = [] := by
  rw [lexed]
  cases (Document.lex settings.policy d file).run.1 <;> rfl

theorem run_stream {x : Ambient LexedStream} {r : Except Failure LexedStream}
    {active active' : Active Settings} {log : List LogEntry}
    (h : x.run active = ((r, active'), log)) :
    Ambient.run (do return Answer.stream (← x)) active = ((r.map .stream, active'), log) := by
  cases r with
  | error e => exact Ambient.bind_of_error h
  | ok stream => exact Ambient.bind_of_ok h

theorem step_of_lexed {settings : Settings}
    (h : (t.act s.lexers).run s.active
      = (((Document.lex settings.policy d file).run.1.map .stream, s.active),
        (Document.lex settings.policy d file).run.2)) :
    s.step t = (lexed settings d file, s) := by
  rw [step, h]
  exact congrArg (fun ls => (lexed settings d file, (⟨s.active, ls⟩ : Session)))
    ((congrArg (s.lexers ++ ·) (made_lexed settings d file)).trans (List.append_nil _))

theorem step_scan (h : s.lexers[i]? = some l) (d : Markup.Document) (file : Option String) :
    s.step (.scan i d file) = (lexed l.settings d file, s) := by
  refine step_of_lexed ?_
  rw [Step.act, h]
  exact run_stream (l.run_scan d file s.active)

theorem step_lex (s : Session) (given : Option Settings) (d : Markup.Document)
    (file : Option String) :
    s.step (.lex given d file) = (lexed (given.getD s.active.current) d file, s) :=
  step_of_lexed (run_stream (Ambient.run_lex given d file s.active))

theorem step_create (s : Session) (given : Option Settings) :
    s.step (.create given) = ((.ok (.lexer ⟨given.getD s.active.current⟩), []),
      ⟨s.active, s.lexers ++ [⟨given.getD s.active.current⟩]⟩) := by
  cases given <;> rfl

theorem step_of_run {o : Except Failure Answer} {active : Active Settings}
    (h : (t.act s.lexers).run s.active = ((o, active), [])) (ho : Outcome.made (o, []) = []) :
    s.step t = ((o, []), ⟨active, s.lexers⟩) := by
  rw [step, h]
  exact congrArg (fun ls => ((o, []), (⟨active, s.lexers ++ ls⟩ : Session))) ho |>.trans
    (congrArg (fun ls => ((o, []), (⟨active, ls⟩ : Session))) (List.append_nil _))

theorem step_enter (s : Session) (c : Settings) :
    s.step (.enter c) = ((.ok .done, []), ⟨s.active.enter c, s.lexers⟩) :=
  step_of_run rfl rfl

theorem step_leave (h : t.isLeave) {q : Settings} (hsaved : s.active.saved = q :: rest) :
    s.step t = ((.ok .done, []), ⟨⟨q, rest⟩, s.lexers⟩) := by
  obtain ⟨⟨current, saved⟩, lexers⟩ := s
  cases hsaved
  cases t with
  | exit | raise => exact step_of_run rfl rfl
  | set | reset | enter | create | scan | lex => cases h

theorem step_leave_none (h : t.isLeave) (hsaved : s.active.saved = []) :
    s.step t = ((.error .outOfRange, []), s) := by
  obtain ⟨⟨current, saved⟩, lexers⟩ := s
  cases hsaved
  cases t with
  | exit | raise => exact step_of_run rfl rfl
  | set | reset | enter | create | scan | lex => cases h

/-- Making and using lexers changes nothing about what is in force. -/
theorem active_step_of_isUse (h : t.isUse) : (s.step t).2.active = s.active := by
  cases t with
  | create given => rw [step_create]
  | scan i d file =>
    cases hl : s.lexers[i]? with
    | none =>
      have hrun : ((Step.scan i d file).act s.lexers).run s.active
          = ((.error .noSuchName, s.active), []) := by
        rw [Step.act, hl]
        rfl
      rw [step_of_run hrun rfl]
    | some l => rw [step_scan hl]
  | lex given d file => rw [step_lex]
  | set | reset | enter | exit | raise => cases h

theorem saved_step_of_isPlain (h : t.isPlain) :
    (s.step t).2.active.saved = s.active.saved := by
  cases t with
  | set | reset => rfl
  | create | scan | lex => rw [active_step_of_isUse rfl]
  | enter | exit | raise => cases h

theorem getElem?_lexers_step (h : s.lexers[i]? = some l) (t : Step) :
    (s.step t).2.lexers[i]? = some l :=
  (List.getElem?_append_left (List.getElem?_eq_some_iff.1 h).1).trans h

theorem getElem?_lexers_run (h : s.lexers[i]? = some l) (ts : List Step) :
    (s.run ts).2.lexers[i]? = some l := by
  induction ts generalizing s with
  | nil => exact h
  | cons t ts ih => exact ih (getElem?_lexers_step h t)

/-- Steps in which all that is entered is left, and nothing else is left. -/
inductive Balanced : List Step → Prop
  | nil : Balanced []
  | plain {t : Step} {ts : List Step} (here : t.isPlain) (after : Balanced ts) : Balanced (t :: ts)
  | nested {c : Settings} {inside : List Step} {t : Step} {ts : List Step}
      (inner : Balanced inside) (leave : t.isLeave) (after : Balanced ts) :
      Balanced (.enter c :: inside ++ t :: ts)

theorem Balanced.append (h : Balanced ts) (h' : Balanced inside) : Balanced (ts ++ inside) := by
  induction h with
  | nil => exact h'
  | plain here _ ih => exact .plain here ih
  | nested inner leave _ _ ih =>
    rw [List.append_assoc]
    exact .nested inner leave ih

/-- Entering, balanced steps and leaving bring back what was in force. -/
theorem run_nested (hsaved : ∀ s : Session, (s.run inside).2.active.saved = s.active.saved)
    (ht : t.isLeave) (s : Session) (c : Settings) :
    (((s.run (.enter c :: inside)).2).step t).1 = (.ok .done, [])
      ∧ (s.run (.enter c :: inside ++ [t])).2.active = s.active := by
  have hinside : (s.run (.enter c :: inside)).2.active.saved
      = s.active.current :: s.active.saved := by
    rw [run_cons, hsaved, step_enter]
    rfl
  have hleave := step_leave ht hinside
  exact ⟨congrArg Prod.fst hleave, by rw [run_concat, hleave]⟩

theorem Balanced.saved_run (h : Balanced ts) (s : Session) :
    (s.run ts).2.active.saved = s.active.saved := by
  induction h generalizing s with
  | nil => rfl
  | plain here _ ih => rw [run_cons, ih, saved_step_of_isPlain here]
  | @nested c inside t ts inner leave _ ihinner ih =>
    have hnested := (run_nested ihinner leave s c).2
    rw [List.append_cons, run_append, ih, hnested]

example (c c' : Settings) :
    (after [.enter c, .enter c', .reset, .exit, .set c', .raise]).active = .start .standard :=
  rfl

theorem exists_enter (h : (after ts).active.saved = p :: rest) :
    ∃ pre c inside, ts = pre ++ .enter c :: inside ∧ Balanced inside
      ∧ (after pre).active = ⟨p, rest⟩ := by
  -- Leaving goes back past a whole nested part, so that the induction is on the number of steps.
  induction hn : ts.length using Nat.strongRecOn generalizing ts p rest with
  | ind n ih =>
    subst hn
    cases ts using List.reverseRecOn with
    | nil => cases h
    | append_singleton ts t =>
      have hlt : ts.length < (ts ++ [t]).length := by simp
      rw [after_concat] at h
      rcases t.isPlain_or with hplain | hleave | ⟨c, rfl⟩
      · rw [saved_step_of_isPlain hplain] at h
        obtain ⟨pre, c, inside, rfl, hinside, hpre⟩ := ih _ hlt h rfl
        refine ⟨pre, c, inside ++ [t], by simp, hinside.append (.plain hplain .nil), hpre⟩
      · -- What is left here was entered last; the settings before it were entered earlier.
        cases hsaved : (after ts).active.saved with
        | nil =>
          rw [step_leave_none hleave hsaved, hsaved] at h
          cases h
        | cons q saved =>
          rw [step_leave hleave hsaved] at h
          cases h
          obtain ⟨mid, c, inside, rfl, hinside, hmid⟩ := ih _ hlt hsaved rfl
          have hshorter : mid.length < (mid ++ .enter c :: inside ++ [t]).length := by simp
          obtain ⟨pre, c', inside', rfl, hinside', hpre⟩ :=
            ih _ hshorter (congrArg Active.saved hmid) rfl
          refine ⟨pre, c', inside' ++ (.enter c :: inside ++ [t]), by simp, ?_, hpre⟩
          exact hinside'.append (.nested hinside hleave .nil)
      · rw [step_enter] at h
        cases h
        exact ⟨ts, c, [], rfl, .nil, rfl⟩

/-- What is left is what was entered last and not left yet. -/
theorem exists_matching (ht : t.isLeave) {answer : Answer} {log : List LogEntry}
    (h : ((after ts).step t).1 = (.ok answer, log)) :
    ∃ pre c inside, ts = pre ++ .enter c :: inside ∧ Balanced inside
      ∧ (after (ts ++ [t])).active = (after pre).active := by
  cases hsaved : (after ts).active.saved with
  | nil =>
    rw [step_leave_none ht hsaved] at h
    cases h
  | cons p rest =>
    obtain ⟨pre, c, inside, hts, hinside, hpre⟩ := exists_enter hsaved
    refine ⟨pre, c, inside, hts, hinside, ?_⟩
    rw [after_concat, step_leave ht hsaved, hpre]

theorem step_scan_created (pre later : List Step) (given : Option Settings)
    (d : Markup.Document) (file : Option String) :
    ((after (pre ++ .create given :: later)).step (.scan (after pre).lexers.length d file)).1
      = lexed (given.getD (after pre).active.current) d file := by
  have hmade : (after (pre ++ [.create given])).lexers[(after pre).lexers.length]?
      = some ⟨given.getD (after pre).active.current⟩ := by
    rw [after_concat, step_create]
    exact List.getElem?_concat_length
  have hlater := getElem?_lexers_run hmade later
  rw [← after_append, List.append_assoc, List.singleton_append] at hlater
  rw [step_scan hlater]

/-- What holds of sessions after some steps. -/
structure Laws (pre : List Step) : Prop where
  forced (c : Settings) : (after (pre ++ [.set c])).active.current = c
    ∧ (after (pre ++ [.enter c])).active.current = c
    ∧ (after (pre ++ [.reset])).active.current = .standard
  left {inside : List Step} (hinside : Balanced inside) (c : Settings) {t : Step}
    (ht : t.isLeave) :
    ((after (pre ++ .enter c :: inside)).step t).1 = (.ok .done, [])
      ∧ (after (pre ++ .enter c :: inside ++ [t])).active = (after pre).active
  matched {t : Step} (ht : t.isLeave) {answer : Answer} {log : List LogEntry}
    (h : ((after pre).step t).1 = (.ok answer, log)) :
    ∃ before c inside, pre = before ++ .enter c :: inside ∧ Balanced inside
      ∧ (after (pre ++ [t])).active = (after before).active
  used {t : Step} (ht : t.isUse) : (after (pre ++ [t])).active = (after pre).active
  created (given : Option Settings) (later : List Step) (d : Markup.Document)
    (file : Option String) :
    ((after (pre ++ .create given :: later)).step (.scan (after pre).lexers.length d file)).1
      = lexed (given.getD (after pre).active.current) d file
  lexed (given : Option Settings) (d : Markup.Document) (file : Option String) :
    ((after pre).step (.lex given d file)).1
      = Session.lexed (given.getD (after pre).active.current) d file

theorem step_laws (pre : List Step) : Laws pre where
  forced c := by
    rw [after_concat, after_concat, after_concat]
    exact ⟨rfl, rfl, rfl⟩
  left hinside c t ht := by
    obtain ⟨hdone, hactive⟩ := run_nested hinside.saved_run ht (after pre) c
    rw [List.append_assoc, after_append, after_append]
    exact ⟨hdone, hactive⟩
  matched ht _ _ h := exists_matching ht h
  used ht := by
    rw [after_concat, active_step_of_isUse ht]
  created given later d file := step_scan_created pre later given d file
  lexed given d file := by
    rw [step_lex]

end Session

end TemplateLexer
