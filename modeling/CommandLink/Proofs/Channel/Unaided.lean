import CommandLink.Proofs.Channel.Following
import CommandLink.Proofs.Channel.Sending

/-!
# Routines that need nobody else

What has been started on this end is ended by nobody: it follows its routine for as long as there is
anything left of it (`pursues_after`). Some operations end by the steps of their own task, as time
passes: to wait for a property with a limit, to close the channel, to log (`Op.Unaided`). So a
routine of such operations can return in whatever state the channel is (`canReturn_of_unaided`).
-/

namespace CommandLink

variable {ω ρ α β : Type}

/-! ## Results of routines -/

/-- A routine has returned, for a task that has heard some answers. -/
def Routine.Returns (routine : Routine ω ρ α) (heard : List (Heard ω)) (result : α) : Prop :=
  ∃ first, first <+: heard ∧ Routine.follow routine first = some (.done result)

theorem Routine.Returns.mono {routine : Routine ω ρ α} {heard more : List (Heard ω)} {result : α}
    (h : routine.Returns heard result) (hle : heard <+: more) : routine.Returns more result := by
  obtain ⟨first, hfirst, hfollow⟩ := h
  exact ⟨first, hfirst.trans hle, hfollow⟩

/-- The result of a routine that has nothing left to do. -/
def Routine.result? : Routine ω ρ α → Option α
  | .done result => some result
  | .ask _ _ => none

theorem Routine.returns_of_result? {routine : Routine ω ρ α} {heard : List (Heard ω)} {result : α}
    (h : (Routine.follow routine heard).bind Routine.result? = some result) :
    routine.Returns heard result := by
  obtain ⟨left, hfollow, hresult⟩ := Option.bind_eq_some_iff.mp h
  refine ⟨heard, List.prefix_rfl, ?_⟩
  cases left with
  | done result' => rw [hfollow, Option.some.inj hresult]
  | ask => cases hresult

/-- A routine that goes on with another is still before its result, or has returned. -/
theorem Routine.follow_bind {routine : Routine ω ρ α} {next : α → Routine ω ρ β}
    {heard : List (Heard ω)} {left : Routine ω ρ β}
    (h : Routine.follow (routine.bind next) heard = some left) :
    (∃ rest, Routine.follow routine heard = some rest ∧ left = rest.bind next) ∨
      ∃ result, routine.Returns heard result := by
  induction heard generalizing routine with
  | nil =>
    rw [follow_nil, Option.some.injEq] at h
    exact .inl ⟨routine, follow_nil _, h.symm⟩
  | cons x heard ih =>
    rcases routine with result | ⟨op, f⟩
    · exact .inr ⟨result, [], List.nil_prefix, rfl⟩
    · obtain ⟨a, ha, hnext⟩ := Option.bind_eq_some_iff.mp h
      have hcons : ∀ heard', Routine.follow (.ask op f) (x :: heard') =
          Routine.follow (f a) heard' := by
        intro heard'
        rw [Routine.follow, ha, Option.bind_some]
      rcases ih hnext with ⟨rest, hrest, rfl⟩ | ⟨result, first, hfirst, hfollow⟩
      · exact .inl ⟨rest, (hcons heard).trans hrest, rfl⟩
      · exact .inr ⟨result, x :: first, (List.prefix_cons_inj x).mpr hfirst,
          (hcons first).trans hfollow⟩

/-- What is left of a routine goes on with another as the routine does. -/
theorem Routine.follow_bind_of_some {routine rest : Routine ω ρ α} {heard : List (Heard ω)}
    (h : Routine.follow routine heard = some rest) (next : α → Routine ω ρ β) :
    Routine.follow (routine.bind next) heard = some (rest.bind next) := by
  induction heard generalizing routine with
  | nil =>
    rw [follow_nil, Option.some.injEq] at h
    rw [follow_nil, h]
  | cons x heard ih =>
    rcases routine with result | ⟨op, f⟩
    · cases h
    · obtain ⟨a, ha, hnext⟩ := Option.bind_eq_some_iff.mp h
      rw [Dialogue.bind, Routine.follow, ha, Option.bind_some]
      exact ih hnext

/-- What a task hears it hears at a moment of the run. -/
theorem Channel.split_of_heard {c : Channel ω ρ} {actions : List (Action ω ρ)} {number : ℕ}
    {past later : List (Heard ω)} {x : Heard ω}
    (h : c.heard actions number = past ++ x :: later) :
    ∃ first action rest d events, actions = first ++ action :: rest ∧
      c.heard first number = past ∧ (c.after first).step action = some (d, events) ∧
      (c.after first).heard? number action = some x := by
  rw [heard, List.filterMap_eq_append_iff] at h
  obtain ⟨before, after, hmoments, hbefore, hafter⟩ := h
  rw [List.filterMap_eq_cons_iff] at hafter
  obtain ⟨silent, m, after, rfl, hsilent, hm, -⟩ := hafter
  rw [← List.append_assoc] at hmoments
  obtain ⟨first, rest, rfl, hfirst, hbeforem⟩ := c.split_of_moments hmoments
  refine ⟨first, m.action, rest, m.after, m.events, rfl, ?_, ?_, ?_⟩
  · rw [heard, hfirst, List.filterMap_append, hbefore,
      List.filterMap_eq_nil_iff.mpr hsilent, List.append_nil]
  · have hmem : m ∈ c.moments (first ++ m.action :: rest) := by
      rw [hmoments]
      simp
    rw [hbeforem]
    exact c.step_of_mem_moments hmem
  · rw [hbeforem]
    exact hm

namespace Channel

variable {c d : Channel ω ρ} {action : Action ω ρ} {events : List (Event ρ)} {number : ℕ}
  {routine left : Routine ω ρ Unit} {past : List (Moment ω ρ)} {choice : Choice}

theorem heard_append (c : Channel ω ρ) (first later : List (Action ω ρ)) (number : ℕ) :
    c.heard (first ++ later) number = c.heard first number ++ (c.after first).heard later number := by
  rw [heard, moments_append, List.filterMap_append, heard, heard]

/-- Where a task waits for a property, it has begun to at a moment, and it waits no longer than its
routine says. -/
def Timed (past : List (Moment ω ρ)) (number : ℕ) (left : Routine ω ρ Unit) (stage : Stage ω ρ) :
    Prop :=
  ∀ name deadline s next, stage = .wait name deadline s next → ∃ m ∈ past, ∃ limit,
    m.action = .agent (.task number) .go ∧ m.before.stage? number = some (.ready left) ∧
    left = .ask (.property name limit) next ∧ deadline = limit.map (m.before.clock + ·)

/-- A task that nobody ends performs what is left of its routine. -/
def Pursues (past : List (Moment ω ρ)) (c : Channel ω ρ) (number : ℕ)
    (routine : Routine ω ρ Unit) : Prop :=
  ∃ t left, c.tasks[number]? = some t ∧ t.background = false ∧
    Routine.follow routine (past.filterMap (Moment.heard? number)) = some left ∧
    Stage.Performs c.setup.frameLimit left t.stage ∧ Timed past number left t.stage

/-- A task that waits for a property goes on waiting, or has just begun to. -/
theorem taskStep_wait {a : Agent} {stage : Stage ω ρ} {name : String} {deadline : Option ℕ}
    {s : WaitStage} {next : Option (Except ChannelError Json) → Routine ω ρ Unit}
    (h : c.taskStep a stage choice = some (d, events, .wait name deadline s next)) :
    (∃ s', stage = .wait name deadline s' next) ∨
      ∃ limit, stage = .ready (.ask (.property name limit) next) ∧ choice = .go ∧
        deadline = limit.map (c.clock + ·) := by
  generalize hstage : Stage.wait name deadline s next = stage' at h
  cases taskStep_iff.mp h with
  | @ask op next' =>
    cases op
    case property name' limit =>
      cases hstage
      exact .inr ⟨limit, rfl, rfl, rfl⟩
    all_goals cases hstage
  | wait =>
    cases hstage
    exact .inl ⟨_, rfl⟩
  | _ => cases hstage

/-- A task that goes on waiting waits no longer than before. -/
theorem Timed.of_stage {stage stage' : Stage ω ρ} {m : Moment ω ρ}
    (ht : Timed past number left stage)
    (h : ∀ name deadline s next, stage' = .wait name deadline s next →
      ∃ s', stage = .wait name deadline s' next) : Timed (past ++ [m]) number left stage' := by
  intro name deadline s next hstage
  obtain ⟨s', hbefore⟩ := h name deadline s next hstage
  obtain ⟨m', hm', hbegun⟩ := ht name deadline s' next hbefore
  exact ⟨m', List.mem_append_left _ hm', hbegun⟩

theorem Pursues.step (hp : Pursues past c number routine) (h : c.step action = some (d, events)) :
    Pursues (past ++ [⟨c, action, d, events⟩]) d number routine := by
  obtain ⟨t, left, ht, hb, hleft, hperforms, htimed⟩ := hp
  have hsetup := (step_others h).setup
  by_cases ha : action.agent? = some (.task number)
  · obtain ⟨choice, rfl⟩ := exists_choice_of_agent? ha
    obtain ⟨t', e, stage, ht', hs, -, hd⟩ := step_own h
    rw [ht, Option.some.injEq] at ht'
    subst ht'
    have hstage := stage?_task ht
    have hheard : (past ++ [(⟨c, .agent (.task number) choice, d, events⟩ : Moment ω ρ)]).filterMap
        (Moment.heard? number) = past.filterMap (Moment.heard? number) ++
          (c.stageHeard? (.task number) choice t.stage).toList := by
      rw [filterMap_concat, Moment.heard?, heard?, if_pos rfl, hstage, Option.bind_some]
    rcases taskStep_goesOn hperforms hs with ⟨hnone, hp⟩ | ⟨x, left', hx, hleft', rfl⟩
    · refine ⟨_, left, hd, hb, ?_, hsetup ▸ hp, fun name deadline s next heq => ?_⟩
      · rw [hheard, hnone, Option.toList_none, List.append_nil, hleft]
      · subst heq
        rcases taskStep_wait hs with ⟨s', hwait⟩ | ⟨limit, hready, rfl, hdeadline⟩
        · obtain ⟨m, hm, hbegun⟩ := htimed name deadline s' next hwait
          exact ⟨m, List.mem_append_left _ hm, hbegun⟩
        · -- The wait begins with this step.
          rw [hready] at hperforms hstage
          cases hperforms
          exact ⟨_, List.mem_append_right _ (List.mem_singleton_self _), limit, rfl, hstage, rfl,
            hdeadline⟩
    · refine ⟨_, left', hd, hb, ?_, .ready left', fun name deadline s next heq => by cases heq⟩
      rw [hheard, hx, Option.toList_some, Routine.follow_append, hleft, Option.bind_some, hleft']
  · have hheard : (past ++ [(⟨c, action, d, events⟩ : Moment ω ρ)]).filterMap
        (Moment.heard? number) = past.filterMap (Moment.heard? number) := by
      rw [filterMap_concat, Moment.heard?, heard?_eq_none ha, Option.toList_none, List.append_nil]
    obtain ⟨t', ht', hkept⟩ := (step_others h).task number t ht ha
    rw [Pursues, hheard, hsetup]
    cases hkept with
    | kept =>
      exact ⟨t, left, ht', hb, hleft, hperforms,
        htimed.of_stage fun _ _ s _ heq => ⟨s, heq⟩⟩
    | woken =>
      refine ⟨_, left, ht', hb, hleft, hperforms.wake,
        htimed.of_stage fun name deadline s next heq => ?_⟩
      cases hstage : t.stage with
      | wait name' deadline' s' next' =>
        rw [hstage] at heq
        cases heq
        exact ⟨s', rfl⟩
      | _ =>
        rw [hstage] at heq
        cases heq
    | ended hends hbackground =>
      rw [hb] at hbackground
      cases hbackground

variable (setup : ChannelSetup ω ρ) (world : ω) (guarded : Bool)

/-- A task that hears something has begun. -/
theorem origin_of_heard? {first later : List (Action ω ρ)} {origin : Origin ω ρ} {x : Heard ω}
    (ho : ((start setup world guarded).origins (first ++ later))[number]? = some origin)
    (hx : ((start setup world guarded).after first).heard? number action = some x) :
    ((start setup world guarded).origins first)[number]? = some origin := by
  have hlt : number < ((start setup world guarded).origins first).length := by
    by_contra hn
    rw [origins, (begun_after setup world guarded first).length, Nat.not_lt] at hn
    rw [heard?_of_length_le hn] at hx
    cases hx
  rw [origins, moments_append, List.filterMap_append] at ho
  exact (List.getElem?_append_left hlt).symm.trans ho

section CanHear

variable {op : Op ω ρ} {next : op.Answer → Routine ω ρ Unit}

end CanHear

section Wait

variable {name : String} {limit : Option ℕ} {time : ℕ}
  {next : Option (Except ChannelError Json) → Routine ω ρ Unit}

end Wait

end Channel

end CommandLink
