import FifthD.Library.Interaction

/-!
Programs that are cut off. The state that a program leaves after some of its questions,
and programs that change what is durable with one question at most: cut off anywhere,
such a program leaves what was durable before it or what it leaves when it ends. Many
sessions, each on what the last one left durable, then have the effect of some of them
run to their ends. Of many programs that run at once any can crash at any point.
-/
namespace FifthD.Library.Prog

universe w

variable {Op : Type*} {Reply : Op → Type*} {α σ D S P : Type*}

/-! ## One program -/

/-- The state after so many questions, or after all when there are fewer. -/
def stateAfter (handler : σ → (op : Op) → σ × Reply op) : Nat → σ → Prog Op Reply α → σ
  | 0, s, _ => s
  | _ + 1, s, .ret _ => s
  | calls + 1, s, .call op next =>
    stateAfter handler calls (handler s op).1 (next (handler s op).2)

/-- From this state the run never changes what is durable. -/
def Keeps (durable : σ → D) (handler : σ → (op : Op) → σ × Reply op) :
    σ → Prog Op Reply α → Prop
  | _, .ret _ => True
  | s, .call op next =>
    durable (handler s op).1 = durable s ∧
      Keeps durable handler (handler s op).1 (next (handler s op).2)

/-- From this state the run changes what is durable with one question at most. -/
def ChangesOnce (durable : σ → D) (handler : σ → (op : Op) → σ × Reply op) :
    σ → Prog Op Reply α → Prop
  | _, .ret _ => True
  | s, .call op next =>
    (durable (handler s op).1 = durable s ∧
        ChangesOnce durable handler (handler s op).1 (next (handler s op).2)) ∨
      Keeps durable handler (handler s op).1 (next (handler s op).2)

variable {durable : σ → D} {handler : σ → (op : Op) → σ × Reply op}

theorem Keeps.once {s : σ} {program : Prog Op Reply α} (keeps : Keeps durable handler s program) :
    ChangesOnce durable handler s program := by
  cases program with
  | ret value => trivial
  | call op next => exact .inr keeps.2

/-- A program that keeps what is durable keeps it at every point and at its end. -/
theorem Keeps.stateAfter {s : σ} {program : Prog Op Reply α}
    (keeps : Keeps durable handler s program) (calls : Nat) :
    durable (stateAfter handler calls s program) = durable s := by
  induction program generalizing s calls with
  | ret value => cases calls <;> rfl
  | call op next ih =>
    cases calls with
    | zero => rfl
    | succ calls => exact (ih _ keeps.2 calls).trans keeps.1

theorem Keeps.run {s : σ} {program : Prog Op Reply α} (keeps : Keeps durable handler s program) :
    durable (run handler s program).1 = durable s := by
  induction program generalizing s with
  | ret value => rfl
  | call op next ih => exact (ih _ keeps.2).trans keeps.1

/-- Wherever it is cut off, what is durable is as before the program or as at its end. -/
theorem ChangesOnce.cut {s : σ} {program : Prog Op Reply α}
    (once : ChangesOnce durable handler s program) (calls : Nat) :
    durable (stateAfter handler calls s program) = durable s ∨
      durable (stateAfter handler calls s program) = durable (run handler s program).1 := by
  induction program generalizing s calls with
  | ret value =>
    left
    cases calls <;> rfl
  | call op next ih =>
    cases calls with
    | zero => exact .inl rfl
    | succ calls =>
      rcases once with ⟨same, later⟩ | keeps
      · rcases ih _ later calls with before | after
        · exact .inl (before.trans same)
        · exact .inr after
      · exact .inr ((keeps.stateAfter calls).trans keeps.run.symm)

/-- A question and what follows its answer. -/
theorem ChangesOnce.ask_bind {Reply : Op → Type w} {β : Type w}
    {handler : σ → (op : Op) → σ × Reply op} {s t : σ} {op : Op} {reply : Reply op}
    (answers : handler s op = (t, reply)) (same : durable t = durable s)
    {rest : Reply op → Prog Op Reply β} (later : ChangesOnce durable handler t (rest reply)) :
    ChangesOnce durable handler s (ask op >>= rest) := by
  change ChangesOnce durable handler s (.call op rest)
  unfold ChangesOnce
  rw [answers]
  exact .inl ⟨same, later⟩

/-- The question that changes what is durable, and nothing after it. -/
theorem ChangesOnce.last {Reply : Op → Type w} {β : Type w}
    {handler : σ → (op : Op) → σ × Reply op} {s t : σ} {op : Op} {reply : Reply op}
    (answers : handler s op = (t, reply)) {rest : Reply op → Prog Op Reply β}
    (keeps : Keeps durable handler t (rest reply)) :
    ChangesOnce durable handler s (ask op >>= rest) := by
  change ChangesOnce durable handler s (.call op rest)
  unfold ChangesOnce
  rw [answers]
  exact .inr keeps

theorem Keeps.ask_bind {Reply : Op → Type w} {β : Type w}
    {handler : σ → (op : Op) → σ × Reply op} {s t : σ} {op : Op} {reply : Reply op}
    (answers : handler s op = (t, reply)) (same : durable t = durable s)
    {rest : Reply op → Prog Op Reply β} (later : Keeps durable handler t (rest reply)) :
    Keeps durable handler s (ask op >>= rest) := by
  change Keeps durable handler s (.call op rest)
  unfold Keeps
  rw [answers]
  exact ⟨same, later⟩

/-- What follows a program keeps what is durable, whatever it is given. -/
theorem Keeps.bind {β : Type*} {s : σ} {program : Prog Op Reply α}
    {rest : α → Prog Op Reply β} (keeps : Keeps durable handler s program)
    (later : ∀ t value, Keeps durable handler t (rest value)) :
    Keeps durable handler s (program.bind rest) := by
  induction program generalizing s with
  | ret value => exact later s value
  | call op next ih => exact ⟨keeps.1, ih _ keeps.2⟩

theorem ChangesOnce.bind {β : Type*} {s : σ} {program : Prog Op Reply α}
    {rest : α → Prog Op Reply β} (once : ChangesOnce durable handler s program)
    (later : ∀ t value, Keeps durable handler t (rest value)) :
    ChangesOnce durable handler s (program.bind rest) := by
  induction program generalizing s with
  | ret value => exact (later s value).once
  | call op next ih =>
    rcases once with ⟨same, once⟩ | keeps
    · exact .inl ⟨same, ih _ once⟩
    · exact .inr (keeps.bind later)

/-- A program that keeps what is durable, and what follows where it ends. -/
theorem Keeps.bind_once {β : Type*} {s : σ} {program : Prog Op Reply α}
    {rest : α → Prog Op Reply β} (keeps : Keeps durable handler s program)
    (later : ChangesOnce durable handler (Prog.run handler s program).1
      (rest (Prog.run handler s program).2)) :
    ChangesOnce durable handler s (program.bind rest) := by
  induction program generalizing s with
  | ret value => exact later
  | call op next ih => exact .inl ⟨keeps.1, ih _ keeps.2 later⟩

/-! ## Sessions, one after the other -/

section Sessions

variable (durable : σ → D) (fresh : D → σ) (handler : S → σ → (op : Op) → σ × Reply op)
  (program : S → Prog Op Reply α)

/-- What a session leaves durable that runs to its end. -/
def wholeSession (d : D) (session : S) : D :=
  durable (run (handler session) (fresh d) (program session)).1

/-- What a session leaves durable: it is cut off after some questions, or not at all. -/
def cutSession (d : D) (cut : S × Option Nat) : D :=
  match cut.2 with
  | none => wholeSession durable fresh handler program d cut.1
  | some calls => durable (stateAfter (handler cut.1) calls (fresh d) (program cut.1))

variable {durable fresh handler program}

/-- Sessions of programs that change what is durable once have together the effect of
some of them run to their ends, among them all that are not cut off. -/
theorem cut_sessions_refine (starts : ∀ d, durable (fresh d) = d)
    (once : ∀ d session,
      ChangesOnce durable (handler session) (fresh d) (program session))
    (d : D) (cuts : List (S × Option Nat)) :
    ∃ done : List (S × Option Nat),
      (cuts.filter fun cut => cut.2.isNone).Sublist done ∧ done.Sublist cuts ∧
        cuts.foldl (cutSession durable fresh handler program) d =
          (done.map Prod.fst).foldl (wholeSession durable fresh handler program) d := by
  induction cuts generalizing d with
  | nil => exact ⟨[], List.nil_sublist _, List.nil_sublist _, rfl⟩
  | cons cut later ih =>
    obtain ⟨session, calls⟩ := cut
    obtain ⟨done, uncut, among, effect⟩ :=
      ih (cutSession durable fresh handler program d (session, calls))
    have takesEffect (whole : cutSession durable fresh handler program d (session, calls) =
        wholeSession durable fresh handler program d session) :
        (((session, calls) :: later).foldl (cutSession durable fresh handler program) d) =
          (((session, calls) :: done).map Prod.fst).foldl
            (wholeSession durable fresh handler program) d := by
      rw [List.foldl_cons, effect, List.map_cons, List.foldl_cons, whole]
    cases calls with
    | none =>
      refine ⟨(session, none) :: done, ?_, among.cons_cons _, takesEffect rfl⟩
      rw [List.filter_cons_of_pos (by rfl)]
      exact uncut.cons_cons _
    | some calls =>
      have onlyLater : (((session, some calls) :: later).filter fun cut => cut.2.isNone) =
          later.filter fun cut => cut.2.isNone := List.filter_cons_of_neg (by simp)
      rw [onlyLater]
      rcases (once d session).cut calls with before | after
      · refine ⟨done, uncut, among.cons _, ?_⟩
        rw [List.foldl_cons, effect]
        congr 1
        exact before.trans (starts d)
      · exact ⟨(session, some calls) :: done, uncut.cons _, among.cons_cons _, takesEffect after⟩

end Sessions

/-! ## Many programs at once -/

variable [DecidableEq P]

/-- A step of one party, or a party that has not ended crashes: it asks no more, and what
it held of the shared state is given up. -/
inductive CrashStep (enabled : P → σ → Op → Prop) (handler : P → σ → (op : Op) → σ × Reply op)
    (crash : P → σ → σ) (dead : α) : System σ P Op Reply α → System σ P Op Reply α → Prop
  | step (s t : System σ P Op Reply α) (step : Step enabled handler s t) :
      CrashStep enabled handler crash dead s t
  | crash (s : System σ P Op Reply α) (p : P) (op : Op) (next : Reply op → Prog Op Reply α)
      (asks : s.programs p = .call op next) :
      CrashStep enabled handler crash dead s
        ⟨crash p s.shared, Function.update s.programs p (.ret dead)⟩

/-- Any number of steps and crashes, in any order. -/
def CrashReaches (enabled : P → σ → Op → Prop) (handler : P → σ → (op : Op) → σ × Reply op)
    (crash : P → σ → σ) (dead : α) : System σ P Op Reply α → System σ P Op Reply α → Prop :=
  Relation.ReflTransGen (CrashStep enabled handler crash dead)

theorem CrashReaches.of_reaches {enabled : P → σ → Op → Prop}
    {handler : P → σ → (op : Op) → σ × Reply op} (crash : P → σ → σ) (dead : α)
    {s t : System σ P Op Reply α} (run : Reaches enabled handler s t) :
    CrashReaches enabled handler crash dead s t :=
  Relation.ReflTransGen.mono (fun s t step => CrashStep.step s t step) _ _ run

/-- A party whose program has not returned crashes. -/
theorem CrashReaches.of_running (enabled : P → σ → Op → Prop)
    (handler : P → σ → (op : Op) → σ × Reply op) (crash : P → σ → σ) (dead : α)
    {s : System σ P Op Reply α} {p : P} (running : (s.programs p).returned.isNone) :
    CrashReaches enabled handler crash dead s
      ⟨crash p s.shared, Function.update s.programs p (.ret dead)⟩ := by
  cases asks : s.programs p with
  | ret value =>
    rw [asks] at running
    cases running
  | call op next => exact .single (.crash s p op next asks)

/-- The rule of a system whose parties crash: a crash is a move of its party that keeps the
invariant, and the party has ended as allowed. -/
theorem CrashReaches.safe {γ : Type*} {enabled : P → σ → Op → Prop}
    {handler : P → σ → (op : Op) → σ × Reply op} {crash : P → σ → σ} {dead : α}
    {contract : Contract σ γ P} {post : P → α → σ → γ → Prop} {s t : System σ P Op Reply α} {g : γ}
    (run : CrashReaches enabled handler crash dead s t) (inv : contract.inv s.shared g)
    (safe : ∀ p, Safe enabled handler contract p (post p) (s.programs p) s.shared g)
    (crashes : ∀ p s g, contract.inv s g →
      contract.moves p s g (crash p s) g ∧ contract.inv (crash p s) g ∧
        Safe enabled handler contract p (post p) (.ret dead : Prog Op Reply α) (crash p s) g)
    (A : σ → γ → Prop) (now : A s.shared g)
    (kept : ∀ p s g t k, contract.moves p s g t k → A s g → A t k) :
    ∃ k, contract.inv t.shared k ∧ A t.shared k ∧
      ∀ p, Safe enabled handler contract p (post p) (t.programs p) t.shared k := by
  induction run with
  | refl => exact ⟨g, inv, now, safe⟩
  | @tail u v _ step ih =>
    obtain ⟨k, inv', now', safe'⟩ := ih
    cases step with
    | step _ step => exact Reaches.safe (.single step) inv' safe' A now' kept
    | crash q _ _ _ =>
      obtain ⟨moved, inv'', ended⟩ := crashes q u.shared k inv'
      refine ⟨k, inv'', kept q _ _ _ _ moved now', fun p => ?_⟩
      by_cases same : p = q
      · subst same
        simpa only [Function.update_self] using ended
      · simp only [Function.update_of_ne same]
        exact Safe.stable q _ _ _ _ (Ne.symm same) moved (safe' p)

end FifthD.Library.Prog
