import PetBackend.Auth.JwksCache
import PetBackend.Library.Spacing
import Mathlib.Data.Rat.Floor

/-!
# Which fetches a call may start

A call fetches for a stale cache, or forces one refresh per interval. Forced marks are an interval
apart even when the fetch fails, successes of stale fetches are a ttl apart.
-/

namespace PetBackend.Auth
open Spacing

variable {K : Type}

def forcedMarks : Log K → List ℚ
  | [] => []
  | .fetchStarted ⟨_, _, some mark⟩ _ :: older => mark :: forcedMarks older
  | _ :: older => forcedMarks older

/-- The stamps of the refreshes that a call started for a stale cache. -/
def staleStamps : Log K → List ℚ
  | [] => []
  | .refreshed ⟨_, some _, none⟩ _ _ stamp :: older => stamp :: staleStamps older
  | _ :: older => staleStamps older

section
variable (p : JWKSProvider)

/-- Why the fetch for `kid` was allowed, when `latest` was the newest refresh. -/
def Licensed (ticket : Ticket) (kid : String) (latest : Refresh K) (older : Log K) : Prop :=
  ∃ now, ticket.checkedAt = some now ∧
    ((ticket.markedAt = none ∧ p.cacheTtlSeconds ≤ now - latest.stamp) ∨
      ∃ mark, ticket.markedAt = some mark ∧ latest.keys.lookup (.str kid) = none ∧
        now - latest.stamp < p.cacheTtlSeconds ∧
        ∀ previous ∈ forcedMarks older, p.minForcedRefreshIntervalSeconds ≤ mark - previous)

def LicenseSound : Entry K → Log K → Prop
  | .fetchStarted ticket (some kid), older =>
    ∀ latest, lastRefresh older = some latest → Licensed p ticket kid latest older
  | _, _ => True

def MarkedAt (s : ProviderState K) : List ℚ → Prop
  | [] => s.lastForcedRefreshAtMonotonic = 0
  | mark :: _ => s.lastForcedRefreshAtMonotonic = mark

/-- A pending fetch without a mark was licensed by a stale cache, and still is. -/
def Pending (s : System K) (ticket : Ticket) : Prop :=
  ∀ checked, ticket.checkedAt = some checked → checked ≤ s.clock ∧
    (ticket.markedAt = none → ∀ stamp, s.provider.fetchedAtMonotonic = some stamp →
      p.cacheTtlSeconds ≤ checked - stamp)

structure LicenseInv (s : System K) : Prop where
  stamped : ∀ stamp ∈ s.provider.fetchedAtMonotonic, stamp ≤ s.clock
  newest : ∀ older ∈ staleStamps s.log, ∃ stamp, s.provider.fetchedAtMonotonic = some stamp ∧ older ≤ stamp
  pending : ∀ i ticket, (s.tasks i).ticket? i = some ticket → Pending p s ticket
  mark : MarkedAt s.provider (forcedMarks s.log)
  marks : Spaced p.minForcedRefreshIntervalSeconds (forcedMarks s.log)
  stamps : Spaced p.cacheTtlSeconds (staleStamps s.log)
  licensed : Throughout (LicenseSound p) s.log

end

section
variable {p : JWKSProvider} {fromDict : JsonObject → Except PyExc (List (PyJWK K))}

theorem marks_interval {s : ProviderState K} {marks : List ℚ} {later : ℚ}
    (mark : MarkedAt s marks) (spaced : Spaced p.minForcedRefreshIntervalSeconds marks)
    (passed : p.minForcedRefreshIntervalSeconds ≤ later - s.lastForcedRefreshAtMonotonic) :
    ∀ previous ∈ marks, p.minForcedRefreshIntervalSeconds ≤ later - previous := by
  cases marks with
  | nil => simp
  | cons newest older => exact spaced_push p.interval_positive spaced (mark ▸ passed)

theorem initial_license (clock : ℚ) : LicenseInv p ({ clock := clock } : System K) where
  stamped := by simp
  newest := by simp [staleStamps]
  pending := by simp [Task.ticket?]
  mark := rfl
  marks := spaced_nil _
  stamps := spaced_nil _
  licensed := trivial

theorem keep_license {s : System K} {i : Nat} {task : Task K} {clock : ℚ} {log : Log K}
    (h : LicenseInv p s) (settled : task.ticket? i = none) (later : s.clock ≤ clock)
    (marks : forcedMarks log = forcedMarks s.log) (stamps : staleStamps log = staleStamps s.log)
    (licensed : Throughout (LicenseSound p) log) :
    LicenseInv p { s.setTask i task with clock := clock, log := log } where
  stamped stamp fetched := le_trans (h.stamped stamp fetched) later
  newest := stamps ▸ h.newest
  pending j ticket fetching := by
    by_cases same : j = i
    · subst same
      simp [System.setTask, settled] at fetching
    · intro checked read
      obtain ⟨past, stale⟩ := h.pending j ticket (by simpa [System.setTask, same] using fetching) checked read
      exact ⟨le_trans past later, stale⟩
  mark := marks ▸ h.mark
  marks := marks ▸ h.marks
  stamps := stamps ▸ h.stamps
  licensed := licensed

theorem take_license {s : System K} {i : Nat} {task : Task K} {ticket : Ticket}
    {kid : Option String} {provider : ProviderState K} {clock : ℚ} (inv : Inv p fromDict s)
    (h : LicenseInv p s) (free : s.lock = none) (ticketed : task.ticket? i = some ticket)
    (later : s.clock ≤ clock) (fetched : provider.fetchedAtMonotonic = s.provider.fetchedAtMonotonic)
    (own : Pending p { s with clock := clock } ticket)
    (mark : MarkedAt provider (forcedMarks (.fetchStarted ticket kid :: s.log)))
    (marks : Spaced p.minForcedRefreshIntervalSeconds (forcedMarks (.fetchStarted ticket kid :: s.log)))
    (licensed : LicenseSound p (.fetchStarted ticket kid) s.log) :
    LicenseInv p { s.setTask i task with
      provider := provider, lock := some i, clock := clock
      log := .fetchStarted ticket kid :: s.log } where
  stamped stamp read := le_trans (h.stamped stamp (fetched ▸ read)) later
  newest := by
    simp only [staleStamps, fetched]
    exact h.newest
  pending j other fetching := by
    by_cases same : j = i
    · subst same
      have equal : ticket = other := by simpa [System.setTask, ticketed] using fetching
      subst equal
      simpa only [Pending, fetched] using own
    · have taken := (inv.holder j other (by simpa [System.setTask, same] using fetching)).1
      simp [free] at taken
  mark := mark
  marks := marks
  stamps := h.stamps
  licensed := ⟨licensed, h.licensed⟩

theorem fetch_license {s : System K} {i : Nat} {kid : String} {now later : ℚ}
    {key : Option (PyJWK K)} {marked : Option ℚ} {provider : ProviderState K}
    (inv : Inv p fromDict s) (h : LicenseInv p s) (free : s.lock = none) (clock : s.clock ≤ now)
    (order : now ≤ later)
    (run : getSigningKeyLocked p s.provider kid now later = (.fetch key marked, provider)) :
    LicenseInv p { s.setTask i (.fetching kid key ⟨i, some now, marked⟩) with
      provider := provider, lock := some i, clock := later
      log := .fetchStarted ⟨i, some now, marked⟩ (some kid) :: s.log } := by
  have age : ∀ latest : Refresh K, lastRefresh s.log = some latest →
      s.provider.keysByKid = latest.keys ∧ s.provider.fetchedAtMonotonic = some latest.stamp := by
    intro latest newest
    have current := inv.current
    rwa [newest] at current
  rcases (locked_fetch run).2 with ⟨rfl, stale, rfl⟩ | ⟨rfl, absent, fresh, passed, rfl⟩
  · refine take_license inv h free rfl (le_trans clock order) rfl ?_ h.mark h.marks ?_
    · rintro checked ⟨⟩
      exact ⟨order, fun _ stamp fetched => isStale_true.mp stale stamp fetched⟩
    · intro latest newest
      exact ⟨now, rfl, Or.inl ⟨rfl, isStale_true.mp stale _ (age latest newest).2⟩⟩
  · have apart := marks_interval h.mark h.marks passed
    refine take_license inv h free rfl (le_trans clock order) rfl ?_ rfl (spaced_cons apart h.marks) ?_
    · rintro checked ⟨⟩
      exact ⟨order, by simp⟩
    · intro latest newest
      obtain ⟨keys, fetched⟩ := age latest newest
      obtain ⟨stamp, read, young⟩ := isStale_false.mp fresh
      have equal : stamp = latest.stamp := Option.some.inj (read.symm.trans fetched)
      refine ⟨now, rfl, Or.inr ⟨later, rfl, ?_, equal ▸ young, apart⟩⟩
      rw [← keys]
      exact absent

theorem free_license {s : System K} {i : Nat} {task : Task K} {ticket : Ticket}
    {provider : ProviderState K} {clock : ℚ} {log : Log K} (inv : Inv p fromDict s)
    (h : LicenseInv p s) (fetching : (s.tasks i).ticket? i = some ticket)
    (settled : task.ticket? i = none)
    (kept : provider.lastForcedRefreshAtMonotonic = s.provider.lastForcedRefreshAtMonotonic)
    (marks : forcedMarks log = forcedMarks s.log)
    (stamped : ∀ stamp ∈ provider.fetchedAtMonotonic, stamp ≤ clock)
    (newest : ∀ older ∈ staleStamps log, ∃ stamp, provider.fetchedAtMonotonic = some stamp ∧ older ≤ stamp)
    (stamps : Spaced p.cacheTtlSeconds (staleStamps log))
    (licensed : Throughout (LicenseSound p) log) :
    LicenseInv p { s.setTask i task with
      provider := provider, lock := none, clock := clock, log := log } where
  stamped := stamped
  newest := newest
  pending j other held := by
    simp [nobody_fetching inv fetching settled j] at held
  mark := by
    have mark := h.mark
    simp only [marks]
    cases before : forcedMarks s.log <;> simp_all [MarkedAt]
  marks := marks ▸ h.marks
  stamps := stamps
  licensed := licensed

theorem refresh_license {s : System K} {i : Nat} {task : Task K} {ticket : Ticket} {now : ℚ}
    {exchange : HttpExchange} {outcome : Except PyExc Unit} {provider : ProviderState K}
    (inv : Inv p fromDict s) (h : LicenseInv p s) (fetching : (s.tasks i).ticket? i = some ticket)
    (settled : task.ticket? i = none) (clock : s.clock ≤ now)
    (run : refresh p fromDict exchange now s.provider = (outcome, provider)) :
    LicenseInv p { s.setTask i task with
      provider := provider, lock := none, clock := now
      log := refreshEntry ticket exchange now (outcome, provider) :: s.log } := by
  have pending := h.pending i ticket fetching
  rcases refresh_cases run with ⟨raised, rfl, rfl⟩ | ⟨rfl, _, stamped, kept⟩
  · exact free_license inv h fetching settled rfl rfl
      (fun stamp read => le_trans (h.stamped stamp read) clock) h.newest h.stamps ⟨trivial, h.licensed⟩
  · have older : ∀ stamp ∈ staleStamps s.log, stamp ≤ now := by
      intro stamp member
      obtain ⟨last, read, bound⟩ := h.newest stamp member
      exact le_trans bound (le_trans (h.stamped last read) clock)
    refine free_license inv h fetching settled kept rfl ?_ ?_ ?_ ⟨trivial, h.licensed⟩
    · intro stamp read
      exact le_of_eq (Option.some.inj (read.symm.trans stamped))
    · intro stamp member
      refine ⟨now, stamped, ?_⟩
      rcases ticket with ⟨task, _ | checked, _ | mark⟩
      · exact older stamp member
      · exact older stamp member
      · rcases List.mem_cons.mp member with rfl | member
        · exact le_refl _
        · exact older stamp member
      · exact older stamp member
    · rcases ticket with ⟨task, _ | checked, _ | mark⟩
      · exact h.stamps
      · exact h.stamps
      · refine spaced_cons ?_ h.stamps
        intro stamp member
        obtain ⟨last, read, bound⟩ := h.newest stamp member
        obtain ⟨past, stale⟩ := pending checked rfl
        have := stale rfl last read
        linarith
      · exact h.stamps

theorem returns_license {s : System K} {i : Nat} {kid : String} {now : ℚ}
    {outcome : Except PyExc (PyJWK K)} (h : LicenseInv p s) :
    LicenseInv p { s with log := returnEntries i kid now outcome ++ s.log } := by
  cases outcome with
  | error => exact h
  | ok key =>
    exact ⟨h.stamped, h.newest, h.pending, h.mark, h.marks, h.stamps, ⟨trivial, h.licensed⟩⟩

theorem step_license {s t : System K} (inv : Inv p fromDict s) (h : LicenseInv p s)
    (step : Step p fromDict s t) : LicenseInv p t := by
  cases step with
  | fast idle clock run => exact keep_license h rfl clock rfl rfl ⟨trivial, h.licensed⟩
  | queue idle clock run => exact keep_license h rfl clock rfl rfl h.licensed
  | hit waiting free clock order run =>
    obtain ⟨rfl, _⟩ := locked_hit run
    exact keep_license h rfl (le_trans clock order) rfl rfl ⟨trivial, h.licensed⟩
  | limited waiting free clock order run =>
    obtain ⟨rfl, _⟩ := locked_raised run
    exact keep_license h rfl (le_trans clock order) rfl rfl h.licensed
  | fetch waiting free clock order run => exact fetch_license inv h free clock order run
  | @answer i kid key ticket now exchange outcome provider fetching clock run =>
    have ticketed : (s.tasks i).ticket? i = some ticket := by rw [fetching]; rfl
    exact returns_license (refresh_license inv h ticketed rfl clock run)
  | startQueue idle => exact keep_license h rfl (le_refl _) rfl rfl h.licensed
  | startFetch waiting free =>
    exact take_license inv h free rfl (le_refl _) rfl (by simp [Pending]) h.mark h.marks trivial
  | @startAnswer i now exchange outcome provider fetching clock run =>
    have ticketed : (s.tasks i).ticket? i = some ⟨i, none, none⟩ := by rw [fetching]; rfl
    exact refresh_license inv h ticketed rfl clock run
  | cancelWaiting waiting => exact keep_license h rfl (le_refl _) rfl rfl h.licensed
  | cancelFetching fetching =>
    exact free_license inv h fetching rfl rfl rfl h.stamped h.newest h.stamps ⟨trivial, h.licensed⟩

theorem reachable_license {s : System K} (h : Reachable p fromDict s) : LicenseInv p s := by
  induction h with
  | initial clock => exact initial_license clock
  | step before step ih => exact step_license (reachable_inv before) ih step

theorem one_fetch {s : System K} (inv : Inv p fromDict s) {i j : Nat} {a b : Ticket}
    (first : (s.tasks i).ticket? i = some a) (second : (s.tasks j).ticket? j = some b) : i = j :=
  Option.some.inj ((inv.holder i a first).1.symm.trans (inv.holder j b second).1)

/-- A call that waits for a kid of the newest refresh gets its key without a fetch, unless the ttl
passes first. -/
theorem waiting_served {s t : System K} {i : Nat} {kid : String} {key : PyJWK K}
    {latest : Refresh K} (inv : Inv p fromDict s) (waiting : s.tasks i = .waiting kid)
    (newest : lastRefresh s.log = some latest) (found : latest.keys.lookup (.str kid) = some key)
    (step : Step p fromDict s t) (moved : t.tasks i ≠ .waiting kid)
    (young : t.clock - latest.stamp < p.cacheTtlSeconds) :
    t.tasks i = .cancelled ∨
      t.tasks i = .done kid (.ok key) ∧ ∃ now, t.log = .returned i kid key now :: s.log := by
  have current := inv.current
  rw [newest] at current
  have cached : s.provider.find kid = some key := by
    rw [ProviderState.find, current.1]
    exact found
  have other : ∀ {j : Nat} {task : Task K}, j ≠ i → (s.setTask j task).tasks i = .waiting kid := by
    intro j task different
    simp [System.setTask, Ne.symm different, waiting]
  have mine : ∀ {j : Nat} {task : Task K}, (s.setTask j task).tasks i ≠ .waiting kid → j = i :=
    fun moved => by_contra fun different => moved (other different)
  have fresh : ∀ {now later : ℚ}, now ≤ later → later - latest.stamp < p.cacheTtlSeconds →
      isStale p s.provider now = false := fun order young =>
    isStale_false.mpr ⟨latest.stamp, current.2, by linarith⟩
  cases step with
  | fast idle | queue idle | startQueue idle =>
    obtain rfl := mine moved
    simp [waiting] at idle
  | hit again free clock order run =>
    obtain rfl := mine moved
    obtain rfl : _ = kid := by simpa [waiting] using again.symm
    obtain ⟨_, held, _⟩ := locked_hit run
    obtain rfl := Option.some.inj (held.symm.trans cached)
    exact Or.inr ⟨by simp [System.setTask], _, rfl⟩
  | limited again free clock order run =>
    obtain rfl := mine moved
    obtain rfl : _ = kid := by simpa [waiting] using again.symm
    have absent := (locked_raised run).2.1
    simp [cached] at absent
  | fetch again free clock order run =>
    obtain rfl := mine moved
    obtain rfl : _ = kid := by simpa [waiting] using again.symm
    rcases (locked_fetch run).2 with ⟨_, stale, _⟩ | ⟨_, absent, _⟩
    · simp [fresh order young] at stale
    · simp [cached] at absent
  | answer fetching | startAnswer fetching =>
    obtain rfl := mine moved
    simp [waiting] at fetching
  | startFetch again =>
    obtain rfl := mine moved
    simp [waiting] at again
  | cancelWaiting again =>
    obtain rfl := mine moved
    exact Or.inl (by simp [System.setTask])
  | cancelFetching fetching =>
    obtain rfl := mine moved
    simp [waiting, Task.ticket?] at fetching

/-- Fetches are single-flight and licensed once `start` has succeeded, so forced marks and
successes of stale fetches are few in any window of time. -/
theorem fetches_licensed {s : System K} (h : Reachable p fromDict s) :
    (∀ i j a b, (s.tasks i).ticket? i = some a → (s.tasks j).ticket? j = some b → i = j) ∧
    (∀ newer ticket kid older latest, s.log = newer ++ .fetchStarted ticket (some kid) :: older →
      lastRefresh older = some latest → Licensed p ticket kid latest older) ∧
    (∀ start width, ((forcedMarks s.log).filter
      (fun time => start ≤ time ∧ time ≤ start + width)).length ≤
        ⌊width / p.minForcedRefreshIntervalSeconds⌋₊ + 1) ∧
    (∀ start width, ((staleStamps s.log).filter
      (fun time => start ≤ time ∧ time ≤ start + width)).length ≤ ⌊width / p.cacheTtlSeconds⌋₊ + 1) ∧
    ∀ i kid key latest t, s.tasks i = .waiting kid → lastRefresh s.log = some latest →
      latest.keys.lookup (.str kid) = some key → Step p fromDict s t → t.tasks i ≠ .waiting kid →
      t.clock - latest.stamp < p.cacheTtlSeconds →
      t.tasks i = .cancelled ∨
        t.tasks i = .done kid (.ok key) ∧ ∃ now, t.log = .returned i kid key now :: s.log := by
  have inv := reachable_inv h
  have license := reachable_license h
  refine ⟨?_, ?_, ?_, ?_, ?_⟩
  · intro i j a b first second
    exact one_fetch inv first second
  · intro newer ticket kid older latest split newest
    have sound : LicenseSound p (.fetchStarted ticket (some kid)) older :=
      throughout_split (split ▸ license.licensed)
    exact sound latest newest
  · intro start width
    exact spaced_window p.interval_positive license.marks start width
  · intro start width
    exact spaced_window p.ttl_positive license.stamps start width
  · intro i kid key latest t waiting newest found step moved young
    exact waiting_served inv waiting newest found step moved young

end

/-- Task 2 asks for an unknown kid at the reading 40 and forces a refresh. -/
def sampleForced : System JsonObject :=
  { sampleStarted.setTask 2 (.fetching "k2" none ⟨2, some 40, some 40⟩) with
    provider := { sampleStarted.provider with lastForcedRefreshAtMonotonic := 40 }
    lock := some 2, clock := 40
    log := .fetchStarted ⟨2, some 40, some 40⟩ (some "k2") :: sampleStarted.log }

theorem sampleForced_reachable : Reachable sampleProvider sampleFromDict sampleForced := by
  have absent : sampleStarted.provider.find "k2" = none := rfl
  have fresh : isStale sampleProvider sampleStarted.provider 40 = false :=
    isStale_false.mpr ⟨10, rfl, by norm_num [sampleProvider]⟩
  have queued := Reachable.step sampleStarted_reachable (Step.queue (i := 2) (by simp [sampleStarted])
    (show sampleStarted.clock ≤ 40 by norm_num [sampleStarted])
    (show getSigningKeyFast sampleProvider _ "k2" 40 = none by simp [getSigningKeyFast, absent]))
  have passed : enforceForcedRefreshRateLimit sampleProvider sampleStarted.provider 40 =
      .ok { sampleStarted.provider with lastForcedRefreshAtMonotonic := 40 } := by
    norm_num [enforceForcedRefreshRateLimit, sampleProvider, sampleStarted]
  have run : getSigningKeyLocked sampleProvider sampleStarted.provider "k2" 40 40 =
      (.fetch none (some 40),
        { sampleStarted.provider with lastForcedRefreshAtMonotonic := 40 }) := by
    simp only [getSigningKeyLocked, absent, fresh, passed]
  have fetching := Reachable.step queued (Step.fetch (i := 2) (by simp [System.setTask])
    rfl (le_refl _) (le_refl _) run)
  simpa [System.setTask, sampleForced] using fetching

theorem fetches_licensed_sample : Licensed sampleProvider ⟨2, some 40, some 40⟩ "k2"
    ⟨sampleExchange [.str "k1"], [(.str "k1", sampleKey (.str "k1"))], 10⟩ sampleStarted.log :=
  (fetches_licensed sampleForced_reachable).2.1 [] _ "k2" _ _ rfl rfl

end PetBackend.Auth
