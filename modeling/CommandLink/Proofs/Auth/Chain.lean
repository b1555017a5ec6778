import CommandLink.Auth.Resolver
import Mathlib.Data.List.Basic
import Mathlib.Tactic.Common

/-!
# Chains of ways of authentication

A dialogue with whoever answers it makes a `Conversation`. `Dialogue.ComesTo` says which
conversations a dialogue may have and what it comes to by each, so it speaks of every client, of
every server whose knowledge may change meanwhile, and of every entry for the security log. Whatever
the answers are, there is just one such conversation (`Dialogue.existsUnique_comesTo`).

`Course` says what becomes of a chain of ways of authentication: which are tried, how each attempt
goes, and what the first that decides decides. The main result, `resolve_firstDecisive`, is that
`resolve` does just this, and that ways which decide nothing may be put into a chain or left out of
it anywhere.
-/

namespace CommandLink

/-- Questions with their answers, in the order in which they were asked. -/
abbrev Conversation (Q : Type) (A : Q → Type) := List ((q : Q) × A q)

variable {Q : Type} {A : Q → Type} {α β : Type}

/-- All answers of a conversation are given by a rule, which may look at what was said before. -/
def Conversation.AnsweredBy (answer : Conversation Q A → (q : Q) → A q)
    (talk : Conversation Q A) : Prop :=
  ∀ past q a later, talk = past ++ ⟨q, a⟩ :: later → a = answer past q

namespace Dialogue

/-- A dialogue that has a conversation comes to a result. -/
inductive ComesTo : Dialogue Q A α → Conversation Q A → α → Prop
  | done (a : α) : ComesTo (.done a) [] a
  | ask {q : Q} {next : A q → Dialogue Q A α} {answer : A q} {talk : Conversation Q A} {a : α}
    (later : ComesTo (next answer) talk a) : ComesTo (.ask q next) (⟨q, answer⟩ :: talk) a

theorem comesTo_done_iff {a b : α} {talk : Conversation Q A} :
    (done a : Dialogue Q A α).ComesTo talk b ↔ talk = [] ∧ b = a := by
  constructor
  · rintro ⟨⟩
    exact ⟨rfl, rfl⟩
  · rintro ⟨rfl, rfl⟩
    exact .done b

theorem comesTo_ask_iff {q : Q} {next : A q → Dialogue Q A α} {talk : Conversation Q A} {a : α} :
    (ask q next).ComesTo talk a ↔
      ∃ answer later, talk = ⟨q, answer⟩ :: later ∧ (next answer).ComesTo later a := by
  constructor
  · rintro ⟨⟩
    exact ⟨_, _, rfl, ‹_›⟩
  · rintro ⟨answer, later, rfl, h⟩
    exact .ask h

/-- A conversation of two dialogues, one after the other, is one of the first and then one of the
second. -/
theorem comesTo_bind_iff {d : Dialogue Q A α} {next : α → Dialogue Q A β}
    {talk : Conversation Q A} {b : β} :
    (d >>= next).ComesTo talk b ↔
      ∃ first later a, talk = first ++ later ∧ d.ComesTo first a ∧ (next a).ComesTo later b := by
  induction d generalizing talk with
  | done a =>
    rw [done_bind]
    constructor
    · intro h
      exact ⟨[], talk, a, rfl, .done a, h⟩
    · rintro ⟨first, later, a', rfl, hfirst, hlater⟩
      obtain ⟨rfl, rfl⟩ := comesTo_done_iff.mp hfirst
      exact hlater
  | ask q f ih =>
    rw [ask_bind, comesTo_ask_iff]
    constructor
    · rintro ⟨answer, rest, rfl, h⟩
      obtain ⟨first, later, a, rfl, hfirst, hlater⟩ := (ih answer).mp h
      exact ⟨_, later, a, rfl, .ask hfirst, hlater⟩
    · rintro ⟨first, later, a, rfl, hfirst, hlater⟩
      obtain ⟨answer, rest, rfl, hrest⟩ := comesTo_ask_iff.mp hfirst
      exact ⟨answer, rest ++ later, rfl, (ih answer).mpr ⟨rest, later, a, rfl, hrest, hlater⟩⟩

/-- **Whatever the answers are**, a dialogue has one conversation with them, and comes to one
result. -/
theorem existsUnique_comesTo (d : Dialogue Q A α) (answer : Conversation Q A → (q : Q) → A q) :
    ∃! run : Conversation Q A × α, d.ComesTo run.1 run.2 ∧ run.1.AnsweredBy answer := by
  induction d generalizing answer with
  | done a =>
    refine ⟨([], a), ⟨.done a, fun past q b later h => absurd h (by simp)⟩, ?_⟩
    rintro ⟨talk, b⟩ ⟨h, -⟩
    obtain ⟨rfl, rfl⟩ := comesTo_done_iff.mp h
    rfl
  | ask q f ih =>
    obtain ⟨⟨rest, a⟩, ⟨hcomes, hanswered⟩, hunique⟩ :=
      ih (answer [] q) fun past => answer (⟨q, answer [] q⟩ :: past)
    refine ⟨(⟨q, answer [] q⟩ :: rest, a), ⟨.ask hcomes, ?_⟩, ?_⟩
    · rintro (_ | ⟨first, past⟩) q' b later h
      · cases h
        rfl
      · obtain ⟨rfl, rfl⟩ := List.cons.inj h
        exact hanswered past q' b later rfl
    · rintro ⟨talk, b⟩ ⟨h, htalk⟩
      obtain ⟨given, later, rfl, hlater⟩ := comesTo_ask_iff.mp h
      obtain rfl : given = answer [] q := htalk [] q given later rfl
      have hrest := hunique (later, b) ⟨hlater, fun past q' c rest' hl =>
        htalk (⟨q, _⟩ :: past) q' c rest' (congrArg (List.cons _) hl)⟩
      rw [Prod.mk.injEq] at hrest
      obtain ⟨rfl, rfl⟩ := hrest
      rfl

end Dialogue

namespace Auth

/-! ## Attempts -/

/-- An attempt of a way of authentication: what was said in it, and what it came to. -/
structure Attempt where
  strategy : Strategy
  talk : Conversation Question Question.Answer
  result : Except AuthError (Option Principal)

namespace Attempt

/-- This is how a way of authentication may go about a request. -/
def OccursFor (a : Attempt) (request : Request) : Prop :=
  (a.strategy.attempt request).ComesTo a.talk a.result

/-- What an attempt decides: a principal and a fatal error are decisive, nothing else is. -/
def decision? (a : Attempt) : Option (Except AuthError Principal) :=
  match a.result with
  | .ok (some principal) => some (.ok principal)
  | .ok none => none
  | .error e => if e.isFatal then some (.error e) else none

/-- What a chain writes to the security log about an attempt. -/
def notes (request : Request) (a : Attempt) : List SecurityRecord :=
  match a.result with
  | .ok _ => []
  | .error e =>
    if e.isFatal then
      [⟨.authFailure, e.message, [("strategy", a.strategy.name),
        ("user", request.credentials.username.getD "")]⟩]
    else
      match e with
      | .token rejected => [⟨.tokenRejected, rejected.message, [("strategy", a.strategy.name)]⟩]
      | _ => []

/-- All that is said for an attempt: what the way of authentication says, and what the chain writes
to the security log about it. -/
def said (request : Request) (a : Attempt) : Conversation Question Question.Answer :=
  a.talk ++ (a.notes request).map fun entry => ⟨.record entry, ()⟩

/-- No error is decisive but a fatal one. -/
theorem isFatal_of_decision? {a : Attempt} {e : AuthError} (h : a.decision? = some (.error e)) :
    e.isFatal = true := by
  unfold decision? at h
  split at h
  · cases h
  · cases h
  · split_ifs at h with hfatal
    cases h
    exact hfatal

end Attempt

/-! ## Courses -/

/-- What becomes of a chain of ways of authentication. -/
structure Course (request : Request) (strategies : List Strategy) (attempts : List Attempt)
    (result : Except AuthError Principal) : Prop where
  /-- They are tried in their order, from the first on. -/
  inOrder : attempts.map Attempt.strategy <+: strategies
  occur : ∀ a ∈ attempts, a.OccursFor request
  /-- After one that decides none is tried. -/
  ends : ∀ before a later, attempts = before ++ a :: later → a.decision? ≠ none → later = []
  /-- If none decides all are tried. -/
  exhausts : (∀ a ∈ attempts, a.decision? = none) → attempts.map Attempt.strategy = strategies
  /-- The first that decides decides the result, and a chain in which none does names nobody. -/
  decided : result = (attempts.findSome? Attempt.decision?).getD (.ok .anonymous)

section Courses

variable {request : Request} {strategy : Strategy} {strategies : List Strategy}
  {attempts : List Attempt} {result : Except AuthError Principal}

theorem course_nil_iff :
    Course request [] attempts result ↔ attempts = [] ∧ result = .ok .anonymous := by
  constructor
  · intro h
    obtain rfl : attempts = [] := List.map_eq_nil_iff.mp (List.prefix_nil.mp h.inOrder)
    exact ⟨rfl, h.decided⟩
  · rintro ⟨rfl, rfl⟩
    exact ⟨List.prefix_rfl, by simp, by simp, fun _ => rfl, rfl⟩

/-- The first of a chain is tried, and the rest of the chain unless it decides. -/
theorem course_cons_iff :
    Course request (strategy :: strategies) attempts result ↔
      ∃ a later, attempts = a :: later ∧ a.strategy = strategy ∧ a.OccursFor request ∧
        ((a.decision? = some result ∧ later = []) ∨
          (a.decision? = none ∧ Course request strategies later result)) := by
  constructor
  · intro h
    rcases attempts with _ | ⟨a, later⟩
    · exact absurd (h.exhausts (by simp)) (by simp)
    obtain ⟨hstrategy, hlater⟩ := List.cons_prefix_cons.mp h.inOrder
    refine ⟨a, later, rfl, hstrategy, h.occur a List.mem_cons_self, ?_⟩
    have hdecided := h.decided
    rcases hd : a.decision? with _ | decision
    · rw [List.findSome?_cons, hd] at hdecided
      refine .inr ⟨rfl, hlater, fun b hb => h.occur b (List.mem_cons_of_mem _ hb),
        fun before b rest heq => h.ends (a :: before) b rest (congrArg (List.cons a) heq),
        fun hnone => ?_, hdecided⟩
      have hall := h.exhausts (List.forall_mem_cons.mpr ⟨hd, hnone⟩)
      exact (List.cons.inj hall).2
    · rw [List.findSome?_cons, hd] at hdecided
      exact .inl ⟨congrArg some hdecided.symm, h.ends [] a later rfl (by simp [hd])⟩
  · rintro ⟨a, later, rfl, rfl, hoccurs, ⟨hd, rfl⟩ | ⟨hd, h⟩⟩
    · refine ⟨by simp, by simpa using hoccurs, fun before b rest heq _ => ?_, fun hnone => ?_, ?_⟩
      · rcases before with _ | ⟨c, before⟩
        · exact (List.cons.inj heq).2.symm
        · exact absurd (List.cons.inj heq).2 (by simp)
      · exact absurd (hnone a List.mem_cons_self) (by simp [hd])
      · simp [hd]
    · refine ⟨List.cons_prefix_cons.mpr ⟨rfl, h.inOrder⟩,
        List.forall_mem_cons.mpr ⟨hoccurs, h.occur⟩, fun before b rest heq hb => ?_,
        fun hnone => ?_, ?_⟩
      · rcases before with _ | ⟨c, before⟩
        · exact absurd hd ((List.cons.inj heq).1 ▸ hb)
        · exact h.ends before b rest (List.cons.inj heq).2 hb
      · exact congrArg (List.cons _) (h.exhausts (List.forall_mem_cons.mp hnone).2)
      · rw [List.findSome?_cons, hd]
        exact h.decided

/-! ## Resolution -/

theorem comesTo_record_iff {event : SecurityEvent} {message : String}
    {details : List (String × String)} {next : Inquiry α}
    {talk : Conversation Question Question.Answer} {a : α} :
    (Inquiry.record event message details >>= fun _ => next).ComesTo talk a ↔
      ∃ later, talk = ⟨.record ⟨event, message, details⟩, ()⟩ :: later ∧ next.ComesTo later a := by
  rw [Inquiry.record, Dialogue.question_bind, Dialogue.comesTo_ask_iff]
  exact ⟨fun ⟨_, later, ht, h⟩ => ⟨later, ht, h⟩, fun ⟨later, ht, h⟩ => ⟨(), later, ht, h⟩⟩

/-- What a chain says after an attempt of its first member: its notes about that attempt, and then
nothing more, or what the rest of the chain says. -/
theorem comesTo_afterwards_iff (a : Attempt) {talk : Conversation Question Question.Answer} :
    Dialogue.ComesTo (match a.result with
      | .ok (some principal) => (return .ok principal : Inquiry (Except AuthError Principal))
      | .ok none => resolve strategies request
      | .error e =>
        if e.isFatal then do
          Inquiry.record .authFailure e.message
            [("strategy", a.strategy.name), ("user", request.credentials.username.getD "")]
          return .error e
        else
          match e with
          | .token rejected => do
            Inquiry.record .tokenRejected rejected.message [("strategy", a.strategy.name)]
            resolve strategies request
          | _ => resolve strategies request) talk result ↔
      ∃ later, talk = (a.notes request).map (fun entry => ⟨.record entry, ()⟩) ++ later ∧
        ((a.decision? = some result ∧ later = []) ∨
          (a.decision? = none ∧ (resolve strategies request).ComesTo later result)) := by
  obtain ⟨strategy, first, outcome⟩ := a
  rcases outcome with (_ | _ | rejected | _) | _ | principal
  all_goals
    simp only [Attempt.notes, Attempt.decision?, AuthError.isFatal, if_true, Bool.false_eq_true,
      if_false, comesTo_record_iff, Dialogue.pure_eq, Dialogue.comesTo_done_iff]
  all_goals simp [and_comm, eq_comm]

/-- What a chain says after the attempt of its first member. -/
theorem comesTo_resolve_cons_iff {talk : Conversation Question Question.Answer} :
    (resolve (strategy :: strategies) request).ComesTo talk result ↔
      ∃ (a : Attempt) (later : Conversation Question Question.Answer),
        a.strategy = strategy ∧ a.OccursFor request ∧ talk = a.said request ++ later ∧
        ((a.decision? = some result ∧ later = []) ∨
          (a.decision? = none ∧ (resolve strategies request).ComesTo later result)) := by
  rw [resolve, Dialogue.comesTo_bind_iff]
  constructor
  · rintro ⟨first, rest, outcome, rfl, hfirst, hrest⟩
    obtain ⟨later, rfl, hlater⟩ := (comesTo_afterwards_iff ⟨strategy, first, outcome⟩).mp hrest
    exact ⟨⟨strategy, first, outcome⟩, later, rfl, hfirst, (List.append_assoc _ _ _).symm, hlater⟩
  · rintro ⟨a, later, rfl, hoccurs, rfl, hlater⟩
    exact ⟨a.talk, _, a.result, List.append_assoc _ _ _, hoccurs,
      (comesTo_afterwards_iff a).mpr ⟨later, rfl, hlater⟩⟩

/-- A chain says what is said for the attempts of one of its courses, and comes to what that course
decides. -/
theorem comesTo_resolve_iff {talk : Conversation Question Question.Answer} :
    (resolve strategies request).ComesTo talk result ↔
      ∃ attempts, Course request strategies attempts result ∧
        talk = attempts.flatMap (Attempt.said request) := by
  induction strategies generalizing talk with
  | nil =>
    rw [resolve, Dialogue.pure_eq, Dialogue.comesTo_done_iff]
    simp [course_nil_iff, and_comm]
  | cons strategy strategies ih =>
    rw [comesTo_resolve_cons_iff]
    constructor
    · rintro ⟨a, later, hstrategy, hoccurs, rfl, ⟨hd, rfl⟩ | ⟨hd, hlater⟩⟩
      · exact ⟨[a], course_cons_iff.mpr ⟨a, [], rfl, hstrategy, hoccurs, .inl ⟨hd, rfl⟩⟩, by simp⟩
      · obtain ⟨attempts, hcourse, rfl⟩ := ih.mp hlater
        exact ⟨a :: attempts,
          course_cons_iff.mpr ⟨a, attempts, rfl, hstrategy, hoccurs, .inr ⟨hd, hcourse⟩⟩, rfl⟩
    · rintro ⟨attempts, hcourse, rfl⟩
      obtain ⟨a, later, rfl, hstrategy, hoccurs, h⟩ := course_cons_iff.mp hcourse
      refine ⟨a, later.flatMap (Attempt.said request), hstrategy, hoccurs, rfl, ?_⟩
      rcases h with ⟨hd, rfl⟩ | ⟨hd, hlater⟩
      · exact .inl ⟨hd, rfl⟩
      · exact .inr ⟨hd, ih.mpr ⟨later, hlater, rfl⟩⟩

/-- The result of a chain is a principal or a fatal error. -/
theorem Course.isFatal {e : AuthError} (h : Course request strategies attempts (.error e)) :
    e.isFatal = true := by
  have hdecided := h.decided
  rcases hfound : attempts.findSome? Attempt.decision? with _ | decision
  · rw [hfound] at hdecided
    exact absurd hdecided (by simp)
  · obtain ⟨a, -, hd⟩ := List.exists_of_findSome?_eq_some hfound
    rw [hfound, Option.getD_some] at hdecided
    exact Attempt.isFatal_of_decision? (hdecided ▸ hd)

/-! ## Ways that decide nothing -/

/-- What is marked to be kept. -/
def kept {γ : Type} (marked : List (γ × Bool)) : List γ := (marked.filter Prod.snd).map Prod.fst

/-- A course of some ways of authentication is one of those that are kept, if the others decide
nothing: the same of them are tried, in the same way. -/
theorem Course.kept {marked : List (Strategy × Bool)} {attempts : List (Attempt × Bool)}
    (hmarked : attempts.map (fun a => (a.1.strategy, a.2)) <+: marked)
    (hundecided : ∀ a ∈ attempts, a.2 = false → a.1.decision? = none)
    (h : Course request (marked.map Prod.fst) (attempts.map Prod.fst) result) :
    Course request (kept marked) (kept attempts) result := by
  induction marked generalizing attempts with
  | nil =>
    obtain rfl : attempts = [] := List.map_eq_nil_iff.mp (List.prefix_nil.mp hmarked)
    exact h
  | cons first marked ih =>
    obtain ⟨strategy, keep⟩ := first
    obtain ⟨a, later, heq, rfl, hoccurs, hdecides⟩ := course_cons_iff.mp h
    rcases attempts with _ | ⟨⟨b, mark⟩, attempts⟩
    · exact absurd heq (by simp)
    obtain ⟨rfl, rfl⟩ := List.cons.inj heq
    obtain ⟨hfirst, hrest⟩ := List.cons_prefix_cons.mp hmarked
    obtain ⟨-, rfl⟩ := Prod.mk.inj hfirst
    obtain ⟨hb, hothers⟩ := List.forall_mem_cons.mp hundecided
    rcases mark with _ | _
    · rcases hdecides with ⟨hd, -⟩ | ⟨-, hlater⟩
      · exact absurd (hd.symm.trans (hb rfl)) (by simp)
      · have hkept := ih hrest hothers hlater
        exact hkept
    · refine course_cons_iff.mpr ⟨b, Auth.kept attempts, rfl, rfl, hoccurs, ?_⟩
      rcases hdecides with ⟨hd, hnil⟩ | ⟨hd, hlater⟩
      · obtain rfl : attempts = [] := List.map_eq_nil_iff.mp hnil
        exact .inl ⟨hd, rfl⟩
      · exact .inr ⟨hd, ih hrest hothers hlater⟩

/-- A course of those that are kept is one of all, if each of the others can go about the request
without deciding anything: the same of them are tried, in the same way. -/
theorem Course.insert {marked : List (Strategy × Bool)} (spare : Strategy → Attempt)
    (hspare : ∀ strategy, (strategy, false) ∈ marked → (spare strategy).strategy = strategy ∧
      (spare strategy).OccursFor request ∧ (spare strategy).decision? = none)
    (h : Course request (Auth.kept marked) attempts result) :
    ∃ all : List (Attempt × Bool), all.map (fun a => (a.1.strategy, a.2)) <+: marked ∧
      (∀ a ∈ all, a.2 = false → a.1 = spare a.1.strategy) ∧ Auth.kept all = attempts ∧
      Course request (marked.map Prod.fst) (all.map Prod.fst) result := by
  induction marked generalizing attempts with
  | nil =>
    obtain ⟨rfl, rfl⟩ := course_nil_iff.mp h
    exact ⟨[], List.prefix_rfl, by simp, rfl, h⟩
  | cons first marked ih =>
    obtain ⟨strategy, keep⟩ := first
    have hrest := fun s hs => hspare s (List.mem_cons_of_mem _ hs)
    rcases keep with _ | _
    · obtain ⟨hs, hoccurs, hd⟩ := hspare strategy List.mem_cons_self
      obtain ⟨all, hmarked, hall, rfl, hcourse⟩ := ih hrest h
      refine ⟨(spare strategy, false) :: all, ?_, ?_, rfl, ?_⟩
      · exact List.cons_prefix_cons.mpr ⟨congrArg (·, false) hs, hmarked⟩
      · exact List.forall_mem_cons.mpr ⟨fun _ => (congrArg spare hs).symm, hall⟩
      · exact course_cons_iff.mpr ⟨_, _, rfl, hs, hoccurs, .inr ⟨hd, hcourse⟩⟩
    · obtain ⟨a, later, rfl, rfl, hoccurs, ⟨hd, rfl⟩ | ⟨hd, hlater⟩⟩ := course_cons_iff.mp h
      · refine ⟨[(a, true)], ?_, by simp, rfl, ?_⟩
        · exact List.cons_prefix_cons.mpr ⟨rfl, List.nil_prefix⟩
        · exact course_cons_iff.mpr ⟨a, [], rfl, rfl, hoccurs, .inl ⟨hd, rfl⟩⟩
      · obtain ⟨all, hmarked, hall, rfl, hcourse⟩ := ih hrest hlater
        refine ⟨(a, true) :: all, List.cons_prefix_cons.mpr ⟨rfl, hmarked⟩, ?_, rfl, ?_⟩
        · exact List.forall_mem_cons.mpr ⟨by simp, hall⟩
        · exact course_cons_iff.mpr ⟨a, _, rfl, rfl, hoccurs, .inr ⟨hd, hcourse⟩⟩

end Courses

/-! ## The first that decides -/

/-- **The first that decides.** For every chain of ways of authentication and every request:

* whatever the answers are, resolution has one conversation with them and comes to one result;
* what is said in a resolution is what is said for the attempts of a course of the chain, and the
  result is what the first of them that gives a principal or a fatal error decides, or nobody in
  particular where none does; no way of authentication after that one is tried;
* an error that is not fatal is never the result;
* where some of the chain are left out that decided nothing, or are put in that decide nothing, the
  same of the others are tried, in the same way, and the result is the same. -/
theorem resolve_firstDecisive (strategies : List Strategy) (request : Request) :
    (∀ answer, ∃! run : Conversation Question Question.Answer × Except AuthError Principal,
      (resolve strategies request).ComesTo run.1 run.2 ∧ run.1.AnsweredBy answer) ∧
    (∀ talk result, (resolve strategies request).ComesTo talk result ↔
      ∃ attempts, Course request strategies attempts result ∧
        talk = attempts.flatMap (Attempt.said request)) ∧
    (∀ talk e, (resolve strategies request).ComesTo talk (.error e) → e.isFatal = true) ∧
    ∀ marked : List (Strategy × Bool), marked.map Prod.fst = strategies →
      (∀ (attempts : List (Attempt × Bool)) result,
        attempts.map (fun a => (a.1.strategy, a.2)) <+: marked →
        (∀ a ∈ attempts, a.2 = false → a.1.decision? = none) →
        Course request strategies (attempts.map Prod.fst) result →
          Course request (kept marked) (kept attempts) result) ∧
      ∀ (spare : Strategy → Attempt) attempts result,
        (∀ strategy, (strategy, false) ∈ marked → (spare strategy).strategy = strategy ∧
          (spare strategy).OccursFor request ∧ (spare strategy).decision? = none) →
        Course request (kept marked) attempts result →
          ∃ all : List (Attempt × Bool), all.map (fun a => (a.1.strategy, a.2)) <+: marked ∧
            (∀ a ∈ all, a.2 = false → a.1 = spare a.1.strategy) ∧ kept all = attempts ∧
            Course request strategies (all.map Prod.fst) result := by
  refine ⟨Dialogue.existsUnique_comesTo _, fun talk result => comesTo_resolve_iff, ?_, ?_⟩
  · intro talk e h
    obtain ⟨attempts, hcourse, -⟩ := comesTo_resolve_iff.mp h
    exact hcourse.isFatal
  · rintro marked rfl
    exact ⟨fun attempts result hmarked hundecided h => h.kept hmarked hundecided,
      fun spare attempts result hspare h => h.insert spare hspare⟩

end Auth

end CommandLink
