import PetBackend.Auth.JwksSystem

/-!
# The cache follows the last accepted payload

The invariant of the provider under concurrent calls: the state is the newest refresh of the log,
the lock has one holder, and a key carried across a fetch is still the cached one.
-/

namespace PetBackend.Auth

variable {K : Type}

/-! ### What each piece of code can do -/

theorem isStale_false {p : JWKSProvider} {s : ProviderState K} {now : ℚ} :
    isStale p s now = false ↔
      ∃ stamp, s.fetchedAtMonotonic = some stamp ∧ now - stamp < p.cacheTtlSeconds := by
  cases fetched : s.fetchedAtMonotonic <;> simp [isStale, cacheAgeSeconds, fetched]

theorem isStale_true {p : JWKSProvider} {s : ProviderState K} {now : ℚ} :
    isStale p s now = true ↔
      ∀ stamp, s.fetchedAtMonotonic = some stamp → p.cacheTtlSeconds ≤ now - stamp := by
  cases fetched : s.fetchedAtMonotonic <;> simp [isStale, cacheAgeSeconds, fetched]

theorem isStaleUsable_true {p : JWKSProvider} {s : ProviderState K} {now : ℚ} :
    isStaleUsable p s now = true ↔ ∃ stamp, s.fetchedAtMonotonic = some stamp ∧
      now - stamp ≤ p.maxStaleSeconds + p.cacheTtlSeconds := by
  cases fetched : s.fetchedAtMonotonic <;> simp [isStaleUsable, cacheAgeSeconds, fetched]

theorem fast_some {p : JWKSProvider} {s : ProviderState K} {kid : String} {now : ℚ} {key : PyJWK K}
    (h : getSigningKeyFast p s kid now = some key) :
    s.find kid = some key ∧ isStale p s now = false := by
  unfold getSigningKeyFast at h
  split at h
  · cases h
  · split at h
    · cases h
    · cases h
      exact ⟨‹_›, by simpa using ‹¬ isStale p s now = true›⟩

theorem limiter_raised {p : JWKSProvider} {s : ProviderState K} {now : ℚ} {raised : PyExc}
    (h : enforceForcedRefreshRateLimit p s now = .error raised) :
    raised = .signingKeyNotFound "Unknown signing key" ∧
      now - s.lastForcedRefreshAtMonotonic < p.minForcedRefreshIntervalSeconds := by
  simp only [enforceForcedRefreshRateLimit] at h
  split at h <;> cases h
  exact ⟨rfl, ‹_›⟩

theorem limiter_passed {p : JWKSProvider} {s t : ProviderState K} {now : ℚ}
    (h : enforceForcedRefreshRateLimit p s now = .ok t) :
    p.minForcedRefreshIntervalSeconds ≤ now - s.lastForcedRefreshAtMonotonic ∧
      t = { s with lastForcedRefreshAtMonotonic := now } := by
  simp only [enforceForcedRefreshRateLimit] at h
  split at h <;> cases h
  exact ⟨not_lt.mp ‹_›, rfl⟩

theorem locked_hit {p : JWKSProvider} {s t : ProviderState K} {kid : String} {now later : ℚ}
    {key : PyJWK K} (h : getSigningKeyLocked p s kid now later = (.hit key, t)) :
    t = s ∧ s.find kid = some key ∧ isStale p s now = false := by
  unfold getSigningKeyLocked at h
  split at h
  · cases h
    exact ⟨rfl, ‹_›, ‹_›⟩
  · split at h <;> cases h
  · cases h

theorem locked_raised {p : JWKSProvider} {s t : ProviderState K} {kid : String} {now later : ℚ}
    {raised : PyExc} (h : getSigningKeyLocked p s kid now later = (.raised raised, t)) :
    t = s ∧ s.find kid = none ∧ isStale p s now = false ∧
      raised = .signingKeyNotFound "Unknown signing key" ∧
      later - s.lastForcedRefreshAtMonotonic < p.minForcedRefreshIntervalSeconds := by
  unfold getSigningKeyLocked at h
  split at h
  · cases h
  · split at h
    · rename_i limited
      cases h
      obtain ⟨message, early⟩ := limiter_raised limited
      exact ⟨rfl, ‹_›, ‹_›, message, early⟩
    · cases h
  · cases h

/-- A fetch under the lock is for a stale cache, or marks a forced refresh of a fresh one. -/
theorem locked_fetch {p : JWKSProvider} {s t : ProviderState K} {kid : String} {now later : ℚ}
    {key : Option (PyJWK K)} {marked : Option ℚ}
    (h : getSigningKeyLocked p s kid now later = (.fetch key marked, t)) :
    key = s.find kid ∧
      ((marked = none ∧ isStale p s now = true ∧ t = s) ∨
        (marked = some later ∧ s.find kid = none ∧ isStale p s now = false ∧
          p.minForcedRefreshIntervalSeconds ≤ later - s.lastForcedRefreshAtMonotonic ∧
          t = { s with lastForcedRefreshAtMonotonic := later })) := by
  unfold getSigningKeyLocked at h
  split at h
  · cases h
  · rename_i absent fresh
    split at h
    · cases h
    · rename_i passed
      cases h
      obtain ⟨spaced, marked⟩ := limiter_passed passed
      exact ⟨absent.symm, Or.inr ⟨rfl, absent, fresh, spaced, marked⟩⟩
  · cases h
    exact ⟨rfl, Or.inl ⟨rfl, ‹_›, rfl⟩⟩

structure Refresh (K : Type) where
  exchange : HttpExchange
  keys : KeyMap K
  stamp : ℚ

def Refresh.Parsed (p : JWKSProvider) (fromDict : JsonObject → Except PyExc (List (PyJWK K)))
    (r : Refresh K) : Prop :=
  ∃ payload, getJson r.exchange = .ok payload ∧ parseJwks p fromDict payload = .ok r.keys

theorem refresh_cases {p : JWKSProvider} {fromDict : JsonObject → Except PyExc (List (PyJWK K))}
    {exchange : HttpExchange} {now : ℚ} {s t : ProviderState K} {outcome : Except PyExc Unit}
    (h : refresh p fromDict exchange now s = (outcome, t)) :
    (∃ raised, outcome = .error raised ∧ t = s) ∨
      (outcome = .ok () ∧ Refresh.Parsed p fromDict ⟨exchange, t.keysByKid, now⟩ ∧
        t.fetchedAtMonotonic = some now ∧
        t.lastForcedRefreshAtMonotonic = s.lastForcedRefreshAtMonotonic) := by
  unfold refresh at h
  split at h
  · cases h
    exact Or.inl ⟨_, rfl, rfl⟩
  · split at h
    · cases h
      exact Or.inl ⟨_, rfl, rfl⟩
    · rename_i payload decoded _ keys parsed
      cases h
      exact Or.inr ⟨rfl, ⟨payload, decoded, parsed⟩, rfl, rfl⟩

theorem refresh_raised {p : JWKSProvider} {fromDict : JsonObject → Except PyExc (List (PyJWK K))}
    {exchange : HttpExchange} (now : ℚ) (s : ProviderState K) {raised : PyExc} :
    (refresh p fromDict exchange now s).1 = .error raised ↔
      getJson exchange >>= parseJwks p fromDict = .error raised := by
  unfold refresh
  cases decoded : getJson exchange with
  | error => simp [bind, Except.bind]
  | ok payload => cases parsed : parseJwks p fromDict payload <;> simp [bind, Except.bind, parsed]

theorem fetched_ok {p : JWKSProvider} {kid : String} {held : Option (PyJWK K)} {now : ℚ}
    {outcome : Except PyExc Unit} {s : ProviderState K} {key : PyJWK K}
    (h : getSigningKeyFetched p kid held now (outcome, s) = .ok key) :
    (outcome = .ok () ∧ s.find kid = some key) ∨
      (∃ message, outcome = .error (.jwksProviderUnavailable message) ∧ held = some key ∧
        isStaleUsable p s now = true) := by
  unfold getSigningKeyFetched at h
  split at h
  · split at h <;> cases h
    simp_all
  · split at h
    · split at h <;> cases h
      simp_all
    · cases h
  · cases h

/-! ### The log -/

def lastRefresh : Log K → Option (Refresh K)
  | [] => none
  | .refreshed _ exchange keys stamp :: _ => some ⟨exchange, keys, stamp⟩
  | _ :: older => lastRefresh older

def Throughout (P : Entry K → Log K → Prop) : Log K → Prop
  | [] => True
  | entry :: older => P entry older ∧ Throughout P older

theorem throughout_split {P : Entry K → Log K → Prop} {newer older : Log K} {entry : Entry K}
    (h : Throughout P (newer ++ entry :: older)) : P entry older := by
  induction newer with
  | nil => exact h.1
  | cons _ _ ih => exact ih h.2

section
variable (p : JWKSProvider) (fromDict : JsonObject → Except PyExc (List (PyJWK K)))

/-- What justifies handing out `key` at the reading `now`, after the log `older`. -/
def Admitted (i : Nat) (kid : String) (key : PyJWK K) (now : ℚ) (older : Log K) : Prop :=
  ∃ latest, lastRefresh older = some latest ∧ latest.Parsed p fromDict ∧
    latest.keys.lookup (.str kid) = some key ∧
    now - latest.stamp ≤ p.cacheTtlSeconds + p.maxStaleSeconds ∧
    (p.cacheTtlSeconds ≤ now - latest.stamp →
      ∃ ticket exchange rest message, older = .refreshFailed ticket (some exchange) :: rest ∧
        ticket.task = i ∧
        getJson exchange >>= parseJwks p fromDict = .error (.jwksProviderUnavailable message))

def Sound : Entry K → Log K → Prop
  | .returned i kid key now, older => Admitted p fromDict i kid key now older
  | .refreshed _ exchange keys stamp, _ => Refresh.Parsed p fromDict ⟨exchange, keys, stamp⟩
  | _, _ => True

end

theorem lastRefresh_parsed {p : JWKSProvider}
    {fromDict : JsonObject → Except PyExc (List (PyJWK K))} {log : Log K} {latest : Refresh K}
    (sound : Throughout (Sound p fromDict) log) (newest : lastRefresh log = some latest) :
    latest.Parsed p fromDict := by
  induction log with
  | nil => cases newest
  | cons entry older ih =>
    cases entry with
    | refreshed ticket exchange keys stamp =>
      cases newest
      exact sound.1
    | _ => exact ih sound.2 newest

/-- The mutable attributes are those the newest refresh left. -/
def Mirrors (s : ProviderState K) : Option (Refresh K) → Prop
  | none => s.keysByKid = [] ∧ s.fetchedAtMonotonic = none
  | some latest => s.keysByKid = latest.keys ∧ s.fetchedAtMonotonic = some latest.stamp

theorem mirrors_fetched {s : ProviderState K} {latest : Option (Refresh K)} {stamp : ℚ}
    (h : Mirrors s latest) (fetched : s.fetchedAtMonotonic = some stamp) :
    ∃ r, latest = some r ∧ s.keysByKid = r.keys ∧ r.stamp = stamp := by
  cases latest with
  | none => simp [h.2] at fetched
  | some r => exact ⟨r, rfl, h.1, Option.some.inj (h.2.symm.trans fetched)⟩

theorem mirrors_congr {s t : ProviderState K} {latest : Option (Refresh K)} (h : Mirrors s latest)
    (keys : t.keysByKid = s.keysByKid) (fetched : t.fetchedAtMonotonic = s.fetchedAtMonotonic) :
    Mirrors t latest := by
  cases latest with
  | none => exact ⟨keys.trans h.1, fetched.trans h.2⟩
  | some r => exact ⟨keys.trans h.1, fetched.trans h.2⟩

structure Inv (p : JWKSProvider) (fromDict : JsonObject → Except PyExc (List (PyJWK K)))
    (s : System K) : Prop where
  current : Mirrors s.provider (lastRefresh s.log)
  holder : ∀ i ticket, (s.tasks i).ticket? i = some ticket → s.lock = some i ∧ ticket.task = i
  carried : ∀ i kid key ticket, s.tasks i = .fetching kid key ticket → key = s.provider.find kid
  sound : Throughout (Sound p fromDict) s.log

section
variable {p : JWKSProvider} {fromDict : JsonObject → Except PyExc (List (PyJWK K))}

theorem initial_inv (clock : ℚ) : Inv p fromDict { clock := clock } :=
  ⟨⟨rfl, rfl⟩, by simp [Task.ticket?], by simp, trivial⟩

theorem settled_not_fetching {i : Nat} {task : Task K} (settled : task.ticket? i = none)
    (kid : String) (key : Option (PyJWK K)) (ticket : Ticket) : task ≠ .fetching kid key ticket := by
  rintro rfl
  cases settled

theorem moved_task {s : System K} {i j : Nat} {task result : Task K} (before : s.tasks i ≠ result)
    (after : (s.setTask j task).tasks i = result) : i = j ∧ task = result := by
  by_cases same : i = j
  · subst same
    exact ⟨rfl, by simpa [System.setTask] using after⟩
  · exact (before (by simpa [System.setTask, same] using after)).elim

/-- A task ends or queues; the cache and the lock stay. -/
theorem keep_inv {s : System K} {i : Nat} {task : Task K} {provider : ProviderState K} {clock : ℚ}
    {log : Log K} (h : Inv p fromDict s) (settled : task.ticket? i = none)
    (keys : provider.keysByKid = s.provider.keysByKid)
    (fetched : provider.fetchedAtMonotonic = s.provider.fetchedAtMonotonic)
    (last : lastRefresh log = lastRefresh s.log) (sound : Throughout (Sound p fromDict) log) :
    Inv p fromDict { s.setTask i task with provider := provider, clock := clock, log := log } := by
  refine ⟨?_, ?_, ?_, sound⟩
  · exact last ▸ mirrors_congr h.current keys fetched
  · intro j ticket fetching
    by_cases same : j = i
    · subst same
      simp [System.setTask, settled] at fetching
    · exact h.holder j ticket (by simpa [System.setTask, same] using fetching)
  · intro j kid key ticket fetching
    by_cases same : j = i
    · subst same
      exact (settled_not_fetching settled kid key ticket
        (by simpa [System.setTask] using fetching)).elim
    · have carried := h.carried j kid key ticket (by simpa [System.setTask, same] using fetching)
      simpa only [ProviderState.find, keys] using carried

theorem take_inv {s : System K} {i : Nat} {task : Task K} {provider : ProviderState K} {clock : ℚ}
    {log : Log K} (h : Inv p fromDict s) (free : s.lock = none)
    (own : ∀ ticket, task.ticket? i = some ticket → ticket.task = i)
    (held : ∀ kid key ticket, task = .fetching kid key ticket → key = s.provider.find kid)
    (keys : provider.keysByKid = s.provider.keysByKid)
    (fetched : provider.fetchedAtMonotonic = s.provider.fetchedAtMonotonic)
    (last : lastRefresh log = lastRefresh s.log) (sound : Throughout (Sound p fromDict) log) :
    Inv p fromDict { s.setTask i task with
      provider := provider, lock := some i, clock := clock, log := log } := by
  refine ⟨last ▸ mirrors_congr h.current keys fetched, ?_, ?_, sound⟩
  · intro j ticket fetching
    by_cases same : j = i
    · subst same
      exact ⟨rfl, own ticket (by simpa [System.setTask] using fetching)⟩
    · have taken := h.holder j ticket (by simpa [System.setTask, same] using fetching)
      simp [free] at taken
  · intro j kid key ticket fetching
    by_cases same : j = i
    · subst same
      have carried := held kid key ticket (by simpa [System.setTask] using fetching)
      simpa only [ProviderState.find, keys] using carried
    · have carried := h.carried j kid key ticket (by simpa [System.setTask, same] using fetching)
      simpa only [ProviderState.find, keys] using carried

theorem nobody_fetching {s : System K} {i : Nat} {task : Task K} {ticket : Ticket}
    (h : Inv p fromDict s) (fetching : (s.tasks i).ticket? i = some ticket)
    (settled : task.ticket? i = none) (j : Nat) : ((s.setTask i task).tasks j).ticket? j = none := by
  by_cases same : j = i
  · subst same
    simpa [System.setTask] using settled
  · cases other : (s.tasks j).ticket? j with
    | none => simpa [System.setTask, same] using other
    | some held =>
      have taken := (h.holder j held other).1
      have mine := (h.holder i ticket fetching).1
      exact (same (Option.some.inj (taken.symm.trans mine))).elim

theorem free_inv {s : System K} {i : Nat} {task : Task K} {provider : ProviderState K} {clock : ℚ}
    {ticket : Ticket} {log : Log K} (h : Inv p fromDict s)
    (fetching : (s.tasks i).ticket? i = some ticket) (settled : task.ticket? i = none)
    (current : Mirrors provider (lastRefresh log)) (sound : Throughout (Sound p fromDict) log) :
    Inv p fromDict { s.setTask i task with
      provider := provider, lock := none, clock := clock, log := log } := by
  have nobody := nobody_fetching h fetching settled
  refine ⟨current, ?_, ?_, sound⟩
  · intro j held fetching
    simp [nobody j] at fetching
  · intro j kid key held fetching
    exact (settled_not_fetching (nobody j) kid key held fetching).elim

theorem fresh_admitted {s : System K} {i : Nat} {kid : String} {key : PyJWK K} {now : ℚ}
    (h : Inv p fromDict s) (found : s.provider.find kid = some key)
    (fresh : isStale p s.provider now = false) : Admitted p fromDict i kid key now s.log := by
  obtain ⟨stamp, fetched, young⟩ := isStale_false.mp fresh
  obtain ⟨latest, newest, keys, rfl⟩ := mirrors_fetched h.current fetched
  refine ⟨latest, newest, ?_, ?_, ?_, ?_⟩
  · exact lastRefresh_parsed h.sound newest
  · rw [← keys]
    exact found
  · have := p.stale_nonnegative
    linarith
  · intro old
    linarith

/-- A key that outlives a failed refresh is still the cached one, young enough, and the failure is
this call's own. -/
theorem stale_admitted {s : System K} {i : Nat} {kid : String} {key : PyJWK K} {ticket : Ticket}
    {exchange : HttpExchange} {now : ℚ} {message : String} (h : Inv p fromDict s)
    (found : s.provider.find kid = some key) (own : ticket.task = i)
    (failed : getJson exchange >>= parseJwks p fromDict = .error (.jwksProviderUnavailable message))
    (usable : isStaleUsable p s.provider now = true) :
    Admitted p fromDict i kid key now (.refreshFailed ticket (some exchange) :: s.log) := by
  obtain ⟨stamp, fetched, young⟩ := isStaleUsable_true.mp usable
  obtain ⟨latest, newest, keys, rfl⟩ := mirrors_fetched h.current fetched
  refine ⟨latest, newest, lastRefresh_parsed h.sound newest, ?_, ?_, ?_⟩
  · rw [← keys]
    exact found
  · linarith
  · intro _
    exact ⟨ticket, exchange, s.log, message, rfl, own, failed⟩

theorem own_admitted {provider : ProviderState K} {older : Log K} {i : Nat} {kid : String}
    {key : PyJWK K} {ticket : Ticket} {exchange : HttpExchange} {now : ℚ}
    (parsed : Refresh.Parsed p fromDict ⟨exchange, provider.keysByKid, now⟩)
    (found : provider.find kid = some key) :
    Admitted p fromDict i kid key now (.refreshed ticket exchange provider.keysByKid now :: older) := by
  have := p.stale_nonnegative
  have := p.ttl_positive
  refine ⟨_, rfl, parsed, found, ?_, ?_⟩
  · simp only [sub_self]
    linarith
  · intro old
    simp only [sub_self] at old
    linarith

theorem lastRefresh_returns (i : Nat) (kid : String) (now : ℚ) (outcome : Except PyExc (PyJWK K))
    (log : Log K) : lastRefresh (returnEntries i kid now outcome ++ log) = lastRefresh log := by
  cases outcome <;> rfl

theorem answer_inv {s : System K} {i : Nat} {kid : String} {key : Option (PyJWK K)}
    {ticket : Ticket} {now : ℚ} {exchange : HttpExchange} {outcome : Except PyExc Unit}
    {provider : ProviderState K} (h : Inv p fromDict s)
    (fetching : s.tasks i = .fetching kid key ticket)
    (run : refresh p fromDict exchange now s.provider = (outcome, provider)) :
    Inv p fromDict { s.setTask i (.done kid (getSigningKeyFetched p kid key now (outcome, provider)))
      with provider := provider, lock := none, clock := now
           log := returnEntries i kid now (getSigningKeyFetched p kid key now (outcome, provider)) ++
            refreshEntry ticket exchange now (outcome, provider) :: s.log } := by
  have ticketed : (s.tasks i).ticket? i = some ticket := by rw [fetching]; rfl
  have own := (h.holder i ticket ticketed).2
  have held := h.carried i kid key ticket fetching
  refine free_inv h ticketed rfl ?_ ?_
  · rw [lastRefresh_returns]
    rcases refresh_cases run with ⟨raised, rfl, rfl⟩ | ⟨rfl, _, stamped, _⟩
    · exact h.current
    · exact ⟨rfl, stamped⟩
  · rcases refresh_cases run with ⟨raised, rfl, rfl⟩ | ⟨rfl, parsed, _, _⟩
    · have failed := (refresh_raised now s.provider).mp (congrArg Prod.fst run)
      have older : Throughout (Sound p fromDict)
        (.refreshFailed ticket (some exchange) :: s.log) := ⟨trivial, h.sound⟩
      cases result : getSigningKeyFetched p kid key now (.error raised, s.provider) with
      | error => exact older
      | ok returned =>
        rcases fetched_ok result with ⟨impossible, _⟩ | ⟨message, unavailable, same, usable⟩
        · cases impossible
        · cases unavailable
          exact ⟨stale_admitted h (held.symm.trans same) own failed usable, older⟩
    · have older : Throughout (Sound p fromDict)
          (.refreshed ticket exchange provider.keysByKid now :: s.log) := ⟨parsed, h.sound⟩
      cases result : getSigningKeyFetched p kid key now (.ok (), provider) with
      | error => exact older
      | ok returned =>
        rcases fetched_ok result with ⟨_, found⟩ | ⟨_, impossible, _⟩
        · exact ⟨own_admitted parsed found, older⟩
        · cases impossible

theorem startAnswer_inv {s : System K} {i : Nat} {now : ℚ} {exchange : HttpExchange}
    {outcome : Except PyExc Unit} {provider : ProviderState K} (h : Inv p fromDict s)
    (fetching : s.tasks i = .startFetching)
    (run : refresh p fromDict exchange now s.provider = (outcome, provider)) :
    Inv p fromDict { s.setTask i (.started outcome) with
      provider := provider, lock := none, clock := now
      log := refreshEntry ⟨i, none, none⟩ exchange now (outcome, provider) :: s.log } := by
  have ticketed : (s.tasks i).ticket? i = some ⟨i, none, none⟩ := by rw [fetching]; rfl
  rcases refresh_cases run with ⟨raised, rfl, rfl⟩ | ⟨rfl, parsed, stamped, _⟩
  · exact free_inv h ticketed rfl h.current ⟨trivial, h.sound⟩
  · exact free_inv h ticketed rfl ⟨rfl, stamped⟩ ⟨parsed, h.sound⟩

theorem step_inv {s t : System K} (h : Inv p fromDict s) (step : Step p fromDict s t) :
    Inv p fromDict t := by
  cases step with
  | fast idle clock run =>
    obtain ⟨found, fresh⟩ := fast_some run
    exact keep_inv h rfl rfl rfl rfl ⟨fresh_admitted h found fresh, h.sound⟩
  | queue idle clock run => exact keep_inv h rfl rfl rfl rfl h.sound
  | hit waiting free clock order run =>
    obtain ⟨rfl, found, fresh⟩ := locked_hit run
    exact keep_inv h rfl rfl rfl rfl ⟨fresh_admitted h found fresh, h.sound⟩
  | limited waiting free clock order run =>
    obtain ⟨rfl, _⟩ := locked_raised run
    exact keep_inv h rfl rfl rfl rfl h.sound
  | @fetch i kid now later key marked provider waiting free clock order run =>
    obtain ⟨carried, license⟩ := locked_fetch run
    have kept : provider.keysByKid = s.provider.keysByKid ∧
        provider.fetchedAtMonotonic = s.provider.fetchedAtMonotonic := by
      rcases license with ⟨_, _, rfl⟩ | ⟨_, _, _, _, rfl⟩ <;> exact ⟨rfl, rfl⟩
    refine take_inv h free ?_ ?_ kept.1 kept.2 rfl ⟨trivial, h.sound⟩
    · rintro ticket ticketed
      cases ticketed
      rfl
    · rintro _ _ _ fetching
      cases fetching
      exact carried
  | answer fetching clock run => exact answer_inv h fetching run
  | startQueue idle => exact keep_inv h rfl rfl rfl rfl h.sound
  | startFetch waiting free =>
    refine take_inv h free ?_ (by simp) rfl rfl rfl ⟨trivial, h.sound⟩
    rintro ticket ticketed
    cases ticketed
    rfl
  | startAnswer fetching clock run => exact startAnswer_inv h fetching run
  | cancelWaiting waiting => exact keep_inv h rfl rfl rfl rfl h.sound
  | cancelFetching fetching => exact free_inv h fetching rfl h.current ⟨trivial, h.sound⟩

theorem reachable_inv {s : System K} (h : Reachable p fromDict s) : Inv p fromDict s := by
  induction h with
  | initial clock => exact initial_inv clock
  | step _ step ih => exact step_inv ih step

def Recorded (s : System K) : Prop :=
  ∀ i kid key, s.tasks i = .done kid (.ok key) → ∃ now, .returned i kid key now ∈ s.log

theorem recorded_step {s t : System K} {i : Nat} {task : Task K} (newer : Log K)
    (h : Recorded s) (tasks : t.tasks = Function.update s.tasks i task) (log : t.log = newer ++ s.log)
    (entry : ∀ kid key, task = .done kid (.ok key) → ∃ now, .returned i kid key now ∈ newer) :
    Recorded t := by
  intro j kid key done
  rw [tasks] at done
  rw [log]
  by_cases same : j = i
  · subst same
    obtain ⟨now, member⟩ := entry kid key (by simpa using done)
    exact ⟨now, List.mem_append_left _ member⟩
  · obtain ⟨now, member⟩ := h j kid key (by simpa [same] using done)
    exact ⟨now, List.mem_append_right _ member⟩

theorem reachable_recorded {s : System K} (h : Reachable p fromDict s) : Recorded s := by
  induction h with
  | initial clock => simp [Recorded]
  | step _ step ih =>
    cases step with
    | @fast i kid now key | @hit i kid now _ key =>
      exact recorded_step [.returned i kid key now] ih rfl rfl (by simp)
    | @fetch i kid now later key marked =>
      exact recorded_step [.fetchStarted ⟨i, some now, marked⟩ (some kid)] ih rfl rfl (by simp)
    | @answer i kid key ticket now exchange outcome provider =>
      refine recorded_step (returnEntries i kid now
        (getSigningKeyFetched p kid key now (outcome, provider)) ++
          [refreshEntry ticket exchange now (outcome, provider)]) ih rfl (by simp) ?_
      intro _ returned done
      cases result : getSigningKeyFetched p kid key now (outcome, provider) <;>
        simp_all [returnEntries]
    | @startFetch i => exact recorded_step [.fetchStarted ⟨i, none, none⟩ none] ih rfl rfl (by simp)
    | @startAnswer i now exchange outcome provider =>
      exact recorded_step [refreshEntry ⟨i, none, none⟩ exchange now (outcome, provider)] ih rfl rfl (by simp)
    | @cancelFetching i ticket =>
      exact recorded_step [.refreshFailed ticket none] ih rfl rfl (by simp)
    | queue | limited | startQueue | cancelWaiting =>
      exact recorded_step [] ih rfl rfl (by simp)

/-- A returned key is the entry for its kid in the newest accepted payload, of bounded age, and
past the ttl only the call whose own refresh just failed gets one. -/
theorem signing_key_current {s : System K} (h : Reachable p fromDict s) :
    (∀ newer i kid key now older, s.log = newer ++ .returned i kid key now :: older →
      Admitted p fromDict i kid key now older) ∧
    ∀ i kid key, s.tasks i = .done kid (.ok key) →
      ∃ newer now older, s.log = newer ++ .returned i kid key now :: older := by
  have inv := reachable_inv h
  refine ⟨?_, ?_⟩
  · intro newer i kid key now older split
    exact throughout_split (P := Sound p fromDict) (split ▸ inv.sound)
  · intro i kid key done
    obtain ⟨now, member⟩ := reachable_recorded h i kid key done
    obtain ⟨newer, older, split⟩ := List.append_of_mem member
    exact ⟨newer, now, older, split⟩

end

/-! ### A sample run -/

def sampleJwk : Json → Option (PyJWK JsonObject)
  | .dict members => some ⟨JsonObject.get members "kid", JsonObject.get members "kty",
      JsonObject.get members "use", some (JsonObject.get members "alg"), members⟩
  | _ => none

/-- `PyJWKSet.from_dict` on sets of keys with a declared algorithm. -/
def sampleFromDict (payload : JsonObject) : Except PyExc (List (PyJWK JsonObject)) :=
  match payload.get "keys" with
  | .list items => .ok (items.filterMap sampleJwk)
  | _ => .error (.jwt (.other "PyJWKSetError"))

def sampleProvider : JWKSProvider where
  jwksUri := "http://keycloak:8080/certs"
  uri_nonempty := by decide
  ttl_positive := by norm_num
  stale_nonnegative := by norm_num
  interval_positive := by norm_num
  timeout_positive := by norm_num

def sampleMembers (kid : Json) : JsonObject :=
  [("kid", kid), ("kty", .str "RSA"), ("use", .str "sig"), ("alg", .str "RS256")]

def sampleExchange (kids : List Json) : HttpExchange :=
  .ok (.ok (.dict [("keys", .list (kids.map (fun kid => .dict (sampleMembers kid))))]))

def sampleKey (kid : Json) : PyJWK JsonObject :=
  ⟨kid, .str "RSA", .str "sig", some (.str "RS256"), sampleMembers kid⟩

def sampleStarted : System JsonObject where
  provider := { keysByKid := [(.str "k1", sampleKey (.str "k1"))], fetchedAtMonotonic := some 10 }
  tasks := Function.update (fun _ => .idle) 0 (.started (.ok ()))
  clock := 10
  log := [.refreshed ⟨0, none, none⟩ (sampleExchange [.str "k1"])
    [(.str "k1", sampleKey (.str "k1"))] 10, .fetchStarted ⟨0, none, none⟩ none]

theorem sample_refresh : refresh sampleProvider sampleFromDict (sampleExchange [.str "k1"]) 10 {} =
    (.ok (), sampleStarted.provider) := rfl

theorem sampleStarted_reachable : Reachable sampleProvider sampleFromDict sampleStarted := by
  have queued : Reachable sampleProvider sampleFromDict _ :=
    .step (.initial 0) (Step.startQueue (i := 0) rfl)
  have fetching := Reachable.step queued (Step.startFetch (i := 0) (by simp [System.setTask]) rfl)
  have answered := Reachable.step fetching (Step.startAnswer (i := 0)
    (by simp [System.setTask]) (by norm_num [System.setTask]) sample_refresh)
  simpa [System.setTask, refreshEntry, sampleStarted] using answered

/-- A call at the reading 20 returns the key fetched at 10. -/
def sampleServed : System JsonObject :=
  { sampleStarted.setTask 1 (.done "k1" (.ok (sampleKey (.str "k1")))) with
    clock := 20, log := .returned 1 "k1" (sampleKey (.str "k1")) 20 :: sampleStarted.log }

theorem sampleServed_step : Step sampleProvider sampleFromDict sampleStarted sampleServed := by
  refine .fast (by simp [sampleStarted]) (by norm_num [sampleStarted]) ?_
  have found : sampleStarted.provider.find "k1" = some (sampleKey (.str "k1")) := rfl
  have fresh : isStale sampleProvider sampleStarted.provider 20 = false :=
    isStale_false.mpr ⟨10, rfl, by norm_num [sampleProvider]⟩
  simp [getSigningKeyFast, found, fresh]

theorem signing_key_current_sample : Admitted sampleProvider sampleFromDict 1 "k1"
    (sampleKey (.str "k1")) 20 sampleStarted.log :=
  (signing_key_current (.step sampleStarted_reachable sampleServed_step)).1 [] 1 "k1" _ 20 _ rfl

end PetBackend.Auth
