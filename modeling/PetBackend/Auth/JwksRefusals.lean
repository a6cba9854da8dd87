import PetBackend.Auth.JwksContainment
import PetBackend.Auth.JwksLicense

/-!
# When an unknown key is refused

`SigningKeyNotFound` comes from a call's own refresh, or from the limiter. The limiter counts from
the mark of the last forced refresh, and its initial mark is the reading 0.
-/

namespace PetBackend.Auth

variable {K : Type}

/-- The newest entry is a refresh of the call's own, without the kid. -/
def OwnMapLacks (p : JWKSProvider) (fromDict : JsonObject → Except PyExc (List (PyJWK K))) (i : Nat)
    (kid : String) (log : Log K) : Prop :=
  ∃ ticket exchange keys stamp older, log = .refreshed ticket exchange keys stamp :: older ∧
    ticket.task = i ∧ Refresh.Parsed p fromDict ⟨exchange, keys, stamp⟩ ∧ keys.lookup (.str kid) = none

/-- Another call has started a forced refresh less than the interval before `now`. -/
def RecentlyForced (p : JWKSProvider) (i : Nat) (now : ℚ) (log : Log K) : Prop :=
  ∃ ticket kid mark, .fetchStarted ticket kid ∈ log ∧ ticket.task ≠ i ∧ ticket.markedAt = some mark ∧
    now - mark < p.minForcedRefreshIntervalSeconds

/-- Each call that the step makes raise `SigningKeyNotFound` has a cause. -/
def ForCause (p : JWKSProvider) (fromDict : JsonObject → Except PyExc (List (PyJWK K)))
    (s t : System K) : Prop :=
  ∀ i kid message, s.tasks i ≠ t.tasks i → t.tasks i = .done kid (.error (.signingKeyNotFound message)) →
    OwnMapLacks p fromDict i kid t.log ∨ RecentlyForced p i t.clock s.log

/-- Before any forced refresh, a call for an unknown kid goes on from the lock to a fetch. -/
def FirstFetches (s t : System K) : Prop :=
  ∀ i kid, s.tasks i = .waiting kid → s.provider.find kid = none → forcedMarks s.log = [] →
    t.tasks i = .waiting kid ∨ t.tasks i = .cancelled ∨ ∃ ticket, (t.tasks i).ticket? i = some ticket

/-- A call finds the cache fresh and without its kid before any forced refresh, and the limiter's
reading of the clock is below the interval. -/
def Unprimed (p : JWKSProvider) (s : System K) (kid : String) (now later : ℚ) : Prop :=
  s.provider.find kid = none ∧ isStale p s.provider now = false ∧ forcedMarks s.log = [] ∧
    later < p.minForcedRefreshIntervalSeconds

/-- No reading of the step leaves a waiting call unprimed. -/
def Primed (p : JWKSProvider) (s t : System K) : Prop :=
  ∀ i kid now, s.tasks i = .waiting kid → t.tasks i ≠ .waiting kid → s.clock ≤ now → now ≤ t.clock →
    ¬ Unprimed p s kid now t.clock

/-- Hypothesis on the HTTP client and on `PyJWKSet.from_dict`: what they raise is not the
repository's own `SigningKeyNotFound`. -/
def Foreign (raised : PyExc) : Prop := ∀ message, raised ≠ .signingKeyNotFound message

def ForeignAnswer : HttpExchange → Prop
  | .error raised | .ok (.error raised) => Foreign raised
  | .ok (.ok _) => True

def ForeignFromDict (fromDict : JsonObject → Except PyExc (List (PyJWK K))) : Prop :=
  ∀ payload raised, fromDict payload = .error raised → Foreign raised

def ForeignAnswers (log : Log K) : Prop :=
  ∀ ticket exchange, .refreshFailed ticket (some exchange) ∈ log → ForeignAnswer exchange

/-- Has not got past the lock. -/
def Task.Queued : Task K → Prop
  | .idle | .waiting _ | .startWaiting => True
  | _ => False

/-- Who has started a fetch is past the lock. -/
def Past (s : System K) : Prop :=
  ∀ ticket kid, .fetchStarted ticket kid ∈ s.log → ¬ (s.tasks ticket.task).Queued

section
variable {p : JWKSProvider} {fromDict : JsonObject → Except PyExc (List (PyJWK K))} {s t : System K}

theorem past_step {i : Nat} {task : Task K} (newer : Log K) (past : Past s)
    (tasks : t.tasks = Function.update s.tasks i task) (log : t.log = newer ++ s.log)
    (own : ∀ ticket kid, .fetchStarted ticket kid ∈ newer → ticket.task = i ∧ ¬ task.Queued)
    (kept : task.Queued → (s.tasks i).Queued) : Past t := by
  intro ticket kid member
  rw [log] at member
  rw [tasks]
  by_cases mine : ticket.task = i
  · rw [mine, Function.update_self]
    rcases List.mem_append.mp member with new | old
    · exact (own ticket kid new).2
    · intro queued
      have before := past ticket kid old
      rw [mine] at before
      exact before (kept queued)
  · rw [Function.update_of_ne mine]
    rcases List.mem_append.mp member with new | old
    · exact (mine (own ticket kid new).1).elim
    · exact past ticket kid old

theorem reachable_past (reached : Reachable p fromDict s) : Past s := by
  induction reached with
  | initial clock => exact fun _ _ member => by cases member
  | step _ step ih =>
    cases step with
    | @fast i kid now key | @hit i kid now _ key =>
      exact past_step [.returned i kid key now] ih rfl rfl (by simp) (by simp [Task.Queued])
    | @fetch i kid now later key marked =>
      exact past_step [.fetchStarted ⟨i, some now, marked⟩ (some kid)] ih rfl rfl
        (by simp [Task.Queued]) (by simp [Task.Queued])
    | @answer i kid key ticket now exchange outcome provider =>
      refine past_step (returnEntries i kid now
        (getSigningKeyFetched p kid key now (outcome, provider)) ++
          [refreshEntry ticket exchange now (outcome, provider)]) ih rfl (by simp) ?_ (by simp [Task.Queued])
      intro other of member
      cases outcome <;> cases result : getSigningKeyFetched p kid key now (_, provider) <;>
        simp [result, returnEntries, refreshEntry] at member
    | @startFetch i =>
      exact past_step [.fetchStarted ⟨i, none, none⟩ none] ih rfl rfl (by simp [Task.Queued])
        (by simp [Task.Queued])
    | @startAnswer i now exchange outcome provider =>
      refine past_step [refreshEntry ⟨i, none, none⟩ exchange now (outcome, provider)] ih rfl rfl ?_
        (by simp [Task.Queued])
      intro other of member
      cases outcome <;> simp [refreshEntry] at member
    | @cancelFetching i ticket =>
      exact past_step [.refreshFailed ticket none] ih rfl rfl (by simp) (by simp [Task.Queued])
    | queue idle | startQueue idle =>
      exact past_step [] ih rfl rfl (by simp) (by simp [idle, Task.Queued])
    | limited | cancelWaiting =>
      exact past_step [] ih rfl rfl (by simp) (by simp [Task.Queued])

theorem mem_forcedMarks {log : Log K} {mark : ℚ} : mark ∈ forcedMarks log ↔
    ∃ ticket kid, .fetchStarted ticket kid ∈ log ∧ ticket.markedAt = some mark := by
  induction log with
  | nil => simp [forcedMarks]
  | cons entry older ih =>
    have later : (∃ ticket kid, .fetchStarted ticket kid ∈ older ∧ ticket.markedAt = some mark) →
        ∃ ticket kid, .fetchStarted ticket kid ∈ entry :: older ∧ ticket.markedAt = some mark := by
      rintro ⟨ticket, kid, member, marked⟩
      exact ⟨ticket, kid, List.mem_cons_of_mem _ member, marked⟩
    constructor
    · intro member
      match entry, member with
      | .fetchStarted ⟨task, checked, some newest⟩ kid, member =>
        rcases List.mem_cons.mp member with rfl | member
        · exact ⟨_, kid, List.mem_cons_self, rfl⟩
        · exact later (ih.mp member)
      | .fetchStarted ⟨_, _, none⟩ _, member => exact later (ih.mp member)
      | .refreshed .., member => exact later (ih.mp member)
      | .refreshFailed .., member => exact later (ih.mp member)
      | .returned .., member => exact later (ih.mp member)
    · rintro ⟨ticket, kid, member, marked⟩
      rcases List.mem_cons.mp member with rfl | member
      · obtain ⟨task, checked, mark⟩ := ticket
        cases marked
        exact List.mem_cons_self
      · have older := ih.mpr ⟨ticket, kid, member, marked⟩
        match entry with
        | .fetchStarted ⟨_, _, some _⟩ _ => exact List.mem_cons_of_mem _ older
        | .fetchStarted ⟨_, _, none⟩ _ | .refreshed .. | .refreshFailed .. | .returned .. => exact older

/-- The limiter refuses with a cause exactly when the call is not unprimed. -/
theorem refused_iff (reached : Reachable p fromDict s) {i : Nat} {kid : String} {now later : ℚ}
    (waiting : s.tasks i = .waiting kid) :
    (∀ raised provider, getSigningKeyLocked p s.provider kid now later = (.raised raised, provider) →
      RecentlyForced p i later s.log) ↔ ¬ Unprimed p s kid now later := by
  have mark := (reachable_license reached).mark
  constructor
  · rintro cause ⟨absent, fresh, never, early⟩
    rw [never] at mark
    have zero : s.provider.lastForcedRefreshAtMonotonic = 0 := mark
    have limited : enforceForcedRefreshRateLimit p s.provider later =
        .error (.signingKeyNotFound "Unknown signing key") := by
      simp [enforceForcedRefreshRateLimit, zero, early]
    obtain ⟨ticket, other, forced, member, -, marked, -⟩ := cause (.signingKeyNotFound "Unknown signing key")
      s.provider (by simp only [getSigningKeyLocked, absent, fresh, limited])
    have among := mem_forcedMarks.mpr ⟨ticket, other, member, marked⟩
    rw [never] at among
    cases among
  · intro primed raised provider run
    obtain ⟨-, absent, fresh, -, early⟩ := locked_raised run
    cases marks : forcedMarks s.log with
    | nil =>
      rw [marks] at mark
      have zero : s.provider.lastForcedRefreshAtMonotonic = 0 := mark
      rw [zero, sub_zero] at early
      exact (primed ⟨absent, fresh, marks, early⟩).elim
    | cons newest older =>
      rw [marks] at mark
      have last : s.provider.lastForcedRefreshAtMonotonic = newest := mark
      rw [last] at early
      obtain ⟨ticket, other, member, marked⟩ := mem_forcedMarks.mp
        (show newest ∈ forcedMarks s.log by rw [marks]; exact List.mem_cons_self)
      refine ⟨ticket, other, newest, member, ?_, marked, early⟩
      rintro rfl
      have past := reachable_past reached ticket other member
      rw [waiting] at past
      exact past trivial

/-! ### The call's own refresh -/

theorem getJson_foreign {exchange : HttpExchange} (answer : ForeignAnswer exchange) {raised : PyExc}
    (failed : getJson exchange = .error raised) : Foreign raised := by
  rcases exchange with other | other | body
  · cases other <;> cases failed <;> first | exact answer | exact nofun
  · cases other <;> cases failed <;> first | exact answer | exact nofun
  · cases failed

theorem refresh_foreign (foreign : ForeignFromDict fromDict) {exchange : HttpExchange}
    (answer : ForeignAnswer exchange) {now : ℚ} {provider provider' : ProviderState K} {raised : PyExc}
    (run : refresh p fromDict exchange now provider = (.error raised, provider')) : Foreign raised := by
  have failed : getJson exchange >>= parseJwks p fromDict = .error raised :=
    (refresh_raised now provider).mp (by rw [run])
  cases decoded : getJson exchange with
  | error other =>
    rw [decoded] at failed
    cases failed
    exact getJson_foreign answer decoded
  | ok body =>
    rw [decoded] at failed
    have parsed : parseJwks p fromDict body = .error raised := failed
    unfold parseJwks at parsed
    split at parsed
    · split at parsed
      · rcases parseKeys_error parsed with ⟨rfl, -⟩ | ⟨⟨message, rfl⟩, -⟩
        · exact nofun
        · exact nofun
      · rename_i read
        split at parsed <;> cases parsed
        · exact nofun
        · exact foreign _ _ read
    · cases parsed
      exact nofun

theorem fetched_notFound {kid message : String} {held : Option (PyJWK K)} {now : ℚ}
    {outcome : Except PyExc Unit} {provider : ProviderState K}
    (foreign : ∀ raised, outcome = .error raised → Foreign raised)
    (run : getSigningKeyFetched p kid held now (outcome, provider) =
      .error (.signingKeyNotFound message)) : outcome = .ok () ∧ provider.find kid = none := by
  unfold getSigningKeyFetched at run
  split at run
  · rename_i same
    cases same
    split at run
    · cases run
    · exact ⟨rfl, ‹_›⟩
  · split at run
    · split at run <;> cases run
    · cases run
  · rename_i same
    cases same
    cases run
    exact (foreign _ rfl message rfl).elim

/-! ### Steps -/

theorem step_forCause (foreign : ForeignFromDict fromDict) (reached : Reachable p fromDict s)
    (step : Step p fromDict s t) (answers : ForeignAnswers t.log) (primed : Primed p s t) :
    ForCause p fromDict s t := by
  intro i kid message moved raised
  -- only the limiter and a fetch of the call's own end a task with this error
  cases step with
  | limited waiting free clock order run =>
    obtain ⟨rfl, task⟩ := moved_task moved rfl
    rw [← task] at raised
    cases raised
    refine Or.inr ((refused_iff reached waiting).mpr (primed i kid _ waiting ?_ clock order) _ _ run)
    rw [← task]
    exact nofun
  | @answer j kid' key ticket now exchange outcome provider fetching clock run =>
    obtain ⟨rfl, task⟩ := moved_task moved rfl
    rw [← task] at raised
    injection raised with same failed
    subst same
    have own := (reachable_inv reached).holder i ticket (by rw [fetching]; rfl)
    obtain ⟨rfl, absent⟩ := fetched_notFound (fun other same => by
      subst same
      exact refresh_foreign foreign (answers ticket exchange (by simp [refreshEntry])) run) failed
    rcases refresh_cases run with ⟨_, impossible, _⟩ | ⟨-, parsed, -, -⟩
    · cases impossible
    · refine Or.inl ⟨ticket, exchange, provider.keysByKid, now, s.log, ?_, own.2, parsed, absent⟩
      simp [failed, returnEntries, refreshEntry]
  | _ =>
    obtain ⟨-, task⟩ := moved_task moved rfl
    rw [← task] at raised
    cases raised

theorem step_firstFetches (reached : Reachable p fromDict s) (step : Step p fromDict s t)
    (primed : Primed p s t) : FirstFetches s t := by
  intro i kid waiting absent never
  by_cases stays : t.tasks i = .waiting kid
  · exact Or.inl stays
  have moved : s.tasks i ≠ t.tasks i := by
    rw [waiting]
    exact Ne.symm stays
  cases step with
  | hit again free clock order run =>
    obtain ⟨rfl, -⟩ := moved_task moved rfl
    cases waiting.symm.trans again
    rw [(locked_hit run).2.1] at absent
    cases absent
  | limited again free clock order run =>
    obtain ⟨rfl, -⟩ := moved_task moved rfl
    cases waiting.symm.trans again
    obtain ⟨ticket, other, mark, member, -, marked, -⟩ :=
      (refused_iff reached waiting).mpr (primed i kid _ waiting stays clock order) _ _ run
    have among := mem_forcedMarks.mpr ⟨ticket, other, member, marked⟩
    rw [never] at among
    cases among
  | fetch again =>
    obtain ⟨rfl, task⟩ := moved_task moved rfl
    exact Or.inr (Or.inr ⟨_, by rw [← task]; rfl⟩)
  | cancelWaiting =>
    obtain ⟨rfl, task⟩ := moved_task moved rfl
    exact Or.inr (Or.inl task.symm)
  | fast idle | queue idle | startQueue idle =>
    obtain ⟨rfl, -⟩ := moved_task moved rfl
    cases waiting.symm.trans idle
  | answer fetching | startAnswer fetching | startFetch fetching =>
    obtain ⟨rfl, -⟩ := moved_task moved rfl
    cases waiting.symm.trans fetching
  | cancelFetching fetching =>
    obtain ⟨rfl, -⟩ := moved_task moved rfl
    rw [waiting] at fetching
    cases fetching

/-- An unknown key is refused for cause but by a limiter whose clock reads less than the interval
before any forced refresh. -/
theorem refused_for_cause (foreign : ForeignFromDict fromDict) (reached : Reachable p fromDict s) :
    (∀ i kid now later, s.tasks i = .waiting kid →
      ((∀ raised provider, getSigningKeyLocked p s.provider kid now later = (.raised raised, provider) →
        RecentlyForced p i later s.log) ↔ ¬ Unprimed p s kid now later)) ∧
    ∀ t, Step p fromDict s t → ForeignAnswers t.log → Primed p s t →
      ForCause p fromDict s t ∧ FirstFetches s t := by
  refine ⟨fun i kid now later waiting => refused_iff reached waiting, fun t step answers primed => ?_⟩
  exact ⟨step_forCause foreign reached step answers primed, step_firstFetches reached step primed⟩

end

/-- A call for an unknown kid waits for the lock at the reading 40. -/
def sampleQueued : System JsonObject := { sampleStarted.setTask 2 (.waiting "k2") with clock := 40 }

theorem sampleQueued_reachable : Reachable sampleProvider sampleFromDict sampleQueued := by
  have absent : sampleStarted.provider.find "k2" = none := rfl
  exact .step sampleStarted_reachable (Step.queue (i := 2) (by simp [sampleStarted])
    (show sampleStarted.clock ≤ 40 by norm_num [sampleStarted]) (by simp [getSigningKeyFast, absent]))

theorem sampleQueued_step : Step sampleProvider sampleFromDict sampleQueued sampleForced := by
  have absent : sampleQueued.provider.find "k2" = none := rfl
  have fresh : isStale sampleProvider sampleQueued.provider 40 = false :=
    isStale_false.mpr ⟨10, rfl, by norm_num [sampleProvider]⟩
  have passed : enforceForcedRefreshRateLimit sampleProvider sampleQueued.provider 40 =
      .ok { sampleQueued.provider with lastForcedRefreshAtMonotonic := 40 } := by
    norm_num [enforceForcedRefreshRateLimit, sampleProvider, sampleQueued, sampleStarted, System.setTask]
  have run : getSigningKeyLocked sampleProvider sampleQueued.provider "k2" 40 40 =
      (.fetch none (some 40), { sampleQueued.provider with lastForcedRefreshAtMonotonic := 40 }) := by
    simp only [getSigningKeyLocked, absent, fresh, passed]
  have fetching : Step sampleProvider sampleFromDict sampleQueued _ :=
    .fetch (i := 2) (by simp [sampleQueued, System.setTask]) rfl (le_refl _) (le_refl _) run
  simpa [System.setTask, sampleForced, sampleQueued] using fetching

theorem sampleFromDict_foreign : ForeignFromDict sampleFromDict := by
  intro payload raised read
  unfold sampleFromDict at read
  split at read <;> cases read
  exact nofun

theorem refused_for_cause_sample : Step sampleProvider sampleFromDict sampleQueued sampleForced ∧
    ForCause sampleProvider sampleFromDict sampleQueued sampleForced ∧
    FirstFetches sampleQueued sampleForced := by
  refine ⟨sampleQueued_step, (refused_for_cause sampleFromDict_foreign sampleQueued_reachable).2 _
    sampleQueued_step ?_ ?_⟩
  · intro ticket exchange member
    simp [sampleForced, sampleStarted] at member
  · rintro i kid now - - - - ⟨-, -, -, early⟩
    norm_num [sampleForced, sampleProvider] at early

/-! ### A young clock -/

/-- The keys were fetched at the reading 1. -/
def youngStarted : System JsonObject where
  provider := { keysByKid := [(.str "k1", sampleKey (.str "k1"))], fetchedAtMonotonic := some 1 }
  tasks := Function.update (fun _ => .idle) 0 (.started (.ok ()))
  clock := 1
  log := [.refreshed ⟨0, none, none⟩ (sampleExchange [.str "k1"])
    [(.str "k1", sampleKey (.str "k1"))] 1, .fetchStarted ⟨0, none, none⟩ none]

def youngQueued : System JsonObject := { youngStarted.setTask 1 (.waiting "k2") with clock := 2 }

def youngRefused : System JsonObject :=
  { youngQueued.setTask 1 (.done "k2" (.error (.signingKeyNotFound "Unknown signing key"))) with
    clock := 2 }

theorem youngQueued_reachable : Reachable sampleProvider sampleFromDict youngQueued := by
  have answer : refresh sampleProvider sampleFromDict (sampleExchange [.str "k1"]) 1 {} =
      (.ok (), youngStarted.provider) := rfl
  have queued : Reachable sampleProvider sampleFromDict _ :=
    .step (.initial 0) (Step.startQueue (i := 0) rfl)
  have fetching := Reachable.step queued (Step.startFetch (i := 0) (by simp [System.setTask]) rfl)
  have answered := Reachable.step fetching (Step.startAnswer (i := 0)
    (by simp [System.setTask]) (by norm_num [System.setTask]) answer)
  have started : Reachable sampleProvider sampleFromDict youngStarted := by
    simpa [System.setTask, refreshEntry, youngStarted] using answered
  have absent : youngStarted.provider.find "k2" = none := rfl
  exact .step started (Step.queue (i := 1) (by simp [youngStarted])
    (show youngStarted.clock ≤ 2 by norm_num [youngStarted]) (by simp [getSigningKeyFast, absent]))

theorem youngRefused_step : Step sampleProvider sampleFromDict youngQueued youngRefused := by
  have absent : youngQueued.provider.find "k2" = none := rfl
  have fresh : isStale sampleProvider youngQueued.provider 2 = false :=
    isStale_false.mpr ⟨1, rfl, by norm_num [sampleProvider]⟩
  have limited : enforceForcedRefreshRateLimit sampleProvider youngQueued.provider 2 =
      .error (.signingKeyNotFound "Unknown signing key") := by
    norm_num [enforceForcedRefreshRateLimit, sampleProvider, youngQueued, youngStarted, System.setTask]
  exact .limited (by simp [youngQueued, System.setTask]) rfl (le_refl _) (le_refl _)
    (show getSigningKeyLocked sampleProvider youngQueued.provider "k2" 2 2 = (.raised _, _) by
      simp only [getSigningKeyLocked, absent, fresh, limited]
      rfl)

/-- The first call for an unknown key is refused at the reading 2, and nothing is fetched. -/
theorem unknown_key_refused : Reachable sampleProvider sampleFromDict youngQueued ∧
    Step sampleProvider sampleFromDict youngQueued youngRefused ∧ forcedMarks youngQueued.log = [] ∧
    ¬ ForCause sampleProvider sampleFromDict youngQueued youngRefused ∧
    ¬ FirstFetches youngQueued youngRefused := by
  have before : youngQueued.tasks 1 = .waiting "k2" := by simp [youngQueued, System.setTask]
  have after : youngRefused.tasks 1 = .done "k2" (.error (.signingKeyNotFound "Unknown signing key")) := by
    simp [youngRefused, System.setTask]
  refine ⟨youngQueued_reachable, youngRefused_step, rfl, fun cause => ?_, fun first => ?_⟩
  · have moved : youngQueued.tasks 1 ≠ youngRefused.tasks 1 := by
      rw [before, after]
      intro same
      cases same
    rcases cause 1 "k2" _ moved after with own | forced
    · obtain ⟨ticket, exchange, keys, stamp, older, log, task, -⟩ := own
      have newest : youngRefused.log = youngStarted.log := rfl
      rw [newest, youngStarted] at log
      cases log
      cases task
    · obtain ⟨ticket, kid, mark, member, -, marked, -⟩ := forced
      have among := mem_forcedMarks.mpr ⟨ticket, kid, member, marked⟩
      cases among
  · rcases first 1 "k2" before rfl rfl with still | cancelled | ⟨ticket, fetching⟩
    · rw [after] at still
      cases still
    · rw [after] at cancelled
      cases cancelled
    · rw [after] at fetching
      cases fetching

end PetBackend.Auth
