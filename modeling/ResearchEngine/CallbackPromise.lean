import ResearchEngine.CallbackDelivery

/-! What `_fire_callback` promises to the receiver and to the worker that calls it, and when it keeps
that. -/
namespace ResearchEngine
namespace Callback

open Program JobSession

/-- The POSTs among the events. -/
def posts (es : List DeliveryEvent) : List CallbackPost :=
  es.filterMap fun
    | .post p => some p
    | .marked => none

/-- The answer is a status below 400. -/
def accepted (p : CallbackPost) : Prop := ∃ status, p.answer = .ok status ∧ status < 400

/-- A row but for its marker. -/
def unmarked (j : Job) : Job := { j with callbackDelivered := false }

section Course

variable {cfg : CallbackSettings} {out : Replies} {told : Bool} {ev : ℕ → DeliveryEvent}

/-- The loop makes one POST for each attempt, and marks the job after the last one if at all. -/
theorem course_events (left attempt : ℕ) (delay : ℚ) (stuck : Bool) :
    ∃ n ≤ left, (course cfg out told ev left attempt delay stuck).1 =
      (List.range' attempt n).map ev ++
        if (course cfg out told ev left attempt delay stuck).2 = .delivered then [.marked] else [] := by
  induction left generalizing attempt delay stuck with
  | zero => exact ⟨0, le_rfl, by simp [course]⟩
  | succ left ih =>
    cases hverdict : verdict out told stuck attempt with
    | marked => exact ⟨1, by omega, by simp [course, hverdict]⟩
    | lost => exact ⟨1, by omega, by simp [course, hverdict]⟩
    | failed stuck' =>
      by_cases hover : Oversleeps cfg out attempt delay
      · exact ⟨1, by omega, by simp [course, hverdict, hover]⟩
      · obtain ⟨n, hn, hes⟩ := ih (attempt + 1) (nextDelay cfg attempt delay) stuck'
        refine ⟨n + 1, by omega, ?_⟩
        simp [course, hverdict, hover, List.range'_succ, hes]

theorem answered_of_marked {stuck : Bool} {attempt : ℕ}
    (h : verdict out told stuck attempt = .marked) : answered out attempt = true := by
  by_contra hno
  simp [verdict, hno] at h

/-- The job is marked after a POST that was accepted. -/
theorem course_delivered {left attempt : ℕ} {delay : ℚ} {stuck : Bool}
    (h : (course cfg out told ev left attempt delay stuck).2 = .delivered) :
    ∃ k, answered out k = true ∧ ev k ∈ (course cfg out told ev left attempt delay stuck).1 := by
  induction left generalizing attempt delay stuck with
  | zero => simp [course] at h
  | succ left ih =>
    cases hverdict : verdict out told stuck attempt with
    | marked => exact ⟨attempt, answered_of_marked hverdict, by simp [course, hverdict]⟩
    | lost => simp [course, hverdict] at h
    | failed stuck' =>
      by_cases hover : Oversleeps cfg out attempt delay
      · simp [course, hverdict, hover] at h
      · obtain ⟨k, hk, hmem⟩ := ih (by simpa [course, hverdict, hover] using h)
        exact ⟨k, hk, by simp [course, hverdict, hover, hmem]⟩

end Course

/-! When the loop raises. -/

section Raises

variable {cfg : CallbackSettings} {out : Replies} {told : Bool} {ev : ℕ → DeliveryEvent}
  {attempt k : ℕ} {delay : ℚ}

/-- Counted from an attempt on, the first whose POST is accepted. -/
def FirstAnswer (out : Replies) (attempt k : ℕ) : Prop :=
  attempt ≤ k ∧ answered out k = true ∧ ∀ m, attempt ≤ m → m < k → answered out m = false

/-- No wait raises after the attempts that meet `p`. -/
def Rests (cfg : CallbackSettings) (out : Replies) (attempt : ℕ) (delay : ℚ) (p : ℕ → Prop) : Prop :=
  cfg.callbackRetrySleep = true → ∀ k, attempt ≤ k → k < cfg.callbackRetryAttempts → p k →
    out.sleep (delay * 2 ^ (k - attempt)) = none

/-- The marker has not been committed by an attempt. -/
def Unmarked (out : Replies) (attempt k : ℕ) : Prop :=
  ∀ m ≤ k, FirstAnswer out attempt m → out.commit m ≠ none

/-- From an attempt on the loop does not raise. -/
def Quiet (cfg : CallbackSettings) (out : Replies) (told : Bool) (attempt : ℕ) (delay : ℚ)
    (stuck : Bool) : Prop :=
  (stuck = false → told = false →
    ∀ k ≤ cfg.callbackRetryAttempts, FirstAnswer out attempt k → out.flush k = none) ∧
  Rests cfg out attempt delay fun k => stuck = false → Unmarked out attempt k

theorem firstAnswer_of_answered (h : answered out attempt = true) :
    FirstAnswer out attempt k ↔ k = attempt := by
  constructor
  · rintro ⟨hle, -, hfirst⟩
    by_contra hne
    have hno := hfirst attempt le_rfl (by omega)
    rw [h] at hno
    cases hno
  · rintro rfl
    exact ⟨le_rfl, h, fun m hm hlt => by omega⟩

theorem firstAnswer_succ (h : answered out attempt = false) :
    FirstAnswer out attempt k ↔ FirstAnswer out (attempt + 1) k := by
  constructor
  · rintro ⟨hle, hk, hfirst⟩
    have hne : k ≠ attempt := by
      rintro rfl
      rw [h] at hk
      cases hk
    exact ⟨by omega, hk, fun m hm hlt => hfirst m (by omega) hlt⟩
  · rintro ⟨hle, hk, hfirst⟩
    refine ⟨by omega, hk, fun m hm hlt => ?_⟩
    obtain rfl | hlater := Nat.eq_or_lt_of_le hm
    · exact h
    · exact hfirst m hlater hlt

/-- The waits of the loop, the first one apart. -/
theorem rests_iff (p : ℕ → Prop) : Rests cfg out attempt delay p ↔
    (p attempt → ¬ Oversleeps cfg out attempt delay) ∧
      Rests cfg out (attempt + 1) (nextDelay cfg attempt delay) p := by
  have hlater : ∀ k, attempt + 1 ≤ k → k < cfg.callbackRetryAttempts →
      nextDelay cfg attempt delay * 2 ^ (k - (attempt + 1)) = delay * 2 ^ (k - attempt) := by
    intro k hle hlt
    have hexp : k - attempt = k - (attempt + 1) + 1 := by omega
    rw [nextDelay, if_pos (by omega), hexp, pow_succ', mul_comm 2 delay, mul_assoc]
  constructor
  · intro h
    refine ⟨?_, fun hsleeps k hle hlt hp => ?_⟩
    · rintro hp ⟨hlt, hsleeps, hover⟩
      exact hover (by simpa using h hsleeps attempt le_rfl hlt hp)
    · rw [hlater k hle hlt]
      exact h hsleeps k (by omega) hlt hp
  · rintro ⟨hfirst, hrest⟩ hsleeps k hle hlt hp
    obtain rfl | hgt := Nat.eq_or_lt_of_le hle
    · by_contra hover
      exact hfirst hp ⟨hlt, hsleeps, by simpa using hover⟩
    · rw [← hlater k hgt hlt]
      exact hrest hsleeps k hgt hlt hp

theorem Rests.congr {p q : ℕ → Prop} (h : ∀ k, attempt ≤ k → (p k ↔ q k)) :
    Rests cfg out attempt delay p ↔ Rests cfg out attempt delay q := by
  constructor
  · exact fun hp hsleeps k hle hlt hq => hp hsleeps k hle hlt ((h k hle).mpr hq)
  · exact fun hq hsleeps k hle hlt hp => hq hsleeps k hle hlt ((h k hle).mp hp)

theorem unmarked_succ (h : answered out attempt = false) :
    Unmarked out attempt k ↔ Unmarked out (attempt + 1) k :=
  forall₂_congr fun _ _ => imp_congr_left (firstAnswer_succ h)

/-- A session that is stuck: only the waits are left. -/
theorem quiet_stuck : Quiet cfg out told attempt delay true ↔
    Rests cfg out attempt delay fun _ => True := by
  simp [Quiet]

theorem quiet_stuck_succ : Quiet cfg out told attempt delay true ↔
    ¬ Oversleeps cfg out attempt delay ∧
      Quiet cfg out told (attempt + 1) (nextDelay cfg attempt delay) true := by
  rw [quiet_stuck, quiet_stuck, rests_iff, true_imp_iff]

/-- An attempt that is not accepted. -/
theorem quiet_succ (h : answered out attempt = false) : Quiet cfg out told attempt delay false ↔
    ¬ Oversleeps cfg out attempt delay ∧
      Quiet cfg out told (attempt + 1) (nextDelay cfg attempt delay) false := by
  have hunmarked : Unmarked out attempt attempt := by
    rintro m hle ⟨hge, hm, -⟩
    obtain rfl := Nat.le_antisymm hle hge
    rw [h] at hm
    cases hm
  simp only [Quiet, true_imp_iff, firstAnswer_succ h]
  rw [rests_iff, Rests.congr fun k _ => unmarked_succ (k := k) h]
  tauto

/-- An accepted attempt whose commit fails leaves the session stuck. -/
theorem quiet_refused (h : answered out attempt = true)
    (hflush : told = false → out.flush attempt = none) (hcommit : out.commit attempt ≠ none) :
    Quiet cfg out told attempt delay false ↔ Quiet cfg out told attempt delay true := by
  have hunmarked : ∀ k, Unmarked out attempt k := by
    intro k m _ hm
    rw [(firstAnswer_of_answered h).mp hm]
    exact hcommit
  rw [quiet_stuck]
  simp only [Quiet, true_imp_iff, firstAnswer_of_answered h, hunmarked]
  refine and_iff_right fun htold k _ hk => ?_
  rw [hk]
  exact hflush htold

/-- An accepted attempt that marks the job. -/
theorem quiet_marked (h : answered out attempt = true)
    (hflush : told = false → out.flush attempt = none) (hcommit : out.commit attempt = none) :
    Quiet cfg out told attempt delay false := by
  constructor
  · intro _ htold k _ hk
    rw [(firstAnswer_of_answered h).mp hk]
    exact hflush htold
  · intro _ k hle _ hunmarked
    exact absurd hcommit (hunmarked rfl attempt hle ((firstAnswer_of_answered h).mpr rfl))

theorem course_failed {left : ℕ} {stuck stuck' : Bool}
    (h : verdict out told stuck attempt = .failed stuck') :
    (course cfg out told ev (left + 1) attempt delay stuck).2 ≠ .raised ↔
      ¬ Oversleeps cfg out attempt delay ∧
        (course cfg out told ev left (attempt + 1) (nextDelay cfg attempt delay) stuck').2 ≠
          .raised := by
  by_cases hover : Oversleeps cfg out attempt delay
  · simp [course, h, hover]
  · simp [course, h, hover]

/-- The loop comes to its end without an exception exactly when it is quiet. -/
theorem course_raised_iff (left : ℕ) (stuck : Bool)
    (hleft : attempt + left = cfg.callbackRetryAttempts + 1) :
    (course cfg out told ev left attempt delay stuck).2 ≠ .raised ↔
      Quiet cfg out told attempt delay stuck := by
  induction left generalizing attempt delay stuck with
  | zero =>
    refine iff_of_true (by simp [course]) ⟨fun _ _ k hle hk => ?_, fun _ k hle hlt => ?_⟩
    · have hge := hk.1
      omega
    · omega
  | succ left ih =>
    have hnext : ∀ stuck', (course cfg out told ev left (attempt + 1)
        (nextDelay cfg attempt delay) stuck').2 ≠ .raised ↔
          Quiet cfg out told (attempt + 1) (nextDelay cfg attempt delay) stuck' :=
      fun stuck' => ih stuck' (by omega)
    cases stuck with
    | true =>
      have hverdict : verdict out told true attempt = .failed true := by simp [verdict]
      rw [course_failed hverdict, hnext, ← quiet_stuck_succ]
    | false =>
      cases hanswer : answered out attempt with
      | false =>
        have hverdict : verdict out told false attempt = .failed false := by
          simp [verdict, hanswer]
        rw [course_failed hverdict, hnext, ← quiet_succ hanswer]
      | true =>
        by_cases hlost : told = false ∧ out.flush attempt ≠ none
        · have hverdict : verdict out told false attempt = .lost := by
            simp [verdict, hanswer, hlost]
          refine iff_of_false (by simp [course, hverdict]) fun hquiet => ?_
          exact hlost.2 (hquiet.1 rfl hlost.1 attempt (by omega)
            ((firstAnswer_of_answered hanswer).mpr rfl))
        have hflush : told = false → out.flush attempt = none := by
          intro htold
          by_contra hno
          exact hlost ⟨htold, hno⟩
        by_cases hcommit : out.commit attempt = none
        · have hverdict : verdict out told false attempt = .marked := by
            simp [verdict, hanswer, hlost, hcommit]
          exact iff_of_true (by simp [course, hverdict]) (quiet_marked hanswer hflush hcommit)
        · have hverdict : verdict out told false attempt = .failed true := by
            simp [verdict, hanswer, hlost, hcommit]
          rw [course_failed hverdict, hnext, ← quiet_stuck_succ,
            quiet_refused hanswer hflush hcommit]

end Raises

/-! A call of the function. -/

section Call

variable {S : Type} {o : JobSession S} {cfg : CallbackSettings} {out : Replies} {j : Job} {c : Store}

/-- The documents can be listed; the marker of a job that is not marked yet is flushed after the first
POST that is accepted; and `time.sleep` takes every wait before the marker is committed. -/
structure Untroubled (cfg : CallbackSettings) (out : Replies) (j : Job) : Prop where
  listing : out.listing = none
  flush : j.callbackDelivered = false →
    ∀ k ≤ cfg.callbackRetryAttempts, FirstAnswer out 1 k → out.flush k = none
  rests : Rests cfg out 1 cfg.callbackRetryBackoff (Unmarked out 1)

/-- What a call does with the rows `c`. -/
structure Promise (o : JobSession S) (cfg : CallbackSettings) (c : Store)
    (result : Except DeliveryError Unit × Delivery S) : Prop where
  attempts : (posts result.2.events).length ≤ cfg.callbackRetryAttempts
  /-- There is no POST after the commit of the marker. -/
  once : ∀ before after, result.2.events = before ++ .marked :: after → posts after = []
  /-- A job that is marked was marked before, or a POST was accepted. -/
  marker : ∀ row, (o.committed result.2.session).jobs.get o.job = some row →
    row.callbackDelivered = true →
      (∃ old, c.jobs.get o.job = some old ∧ old.callbackDelivered = true) ∨
        ∃ p ∈ posts result.2.events, accepted p
  /-- Nothing but the marker is written. -/
  row : ((o.committed result.2.session).jobs.get o.job).map unmarked =
    (c.jobs.get o.job).map unmarked
  others : ∀ id ≠ o.job, (o.committed result.2.session).jobs.get id = c.jobs.get id
  docs : (o.committed result.2.session).docs = c.docs
  returns : result.1 = .ok ()

theorem storeAfter_cases (o : JobSession S) (j : Job) (c : Store) (ending : Ending) :
    storeAfter o j c ending = c ∨
      ending = .delivered ∧ storeAfter o j c ending = c.modifyJob o.job Job.deliver := by
  unfold storeAfter
  split
  · rename_i h
    exact .inr ⟨h.1, rfl⟩
  · exact .inl rfl

@[simp] theorem storeAfter_row (ending : Ending) :
    ((storeAfter o j c ending).jobs.get o.job).map unmarked = (c.jobs.get o.job).map unmarked := by
  have hunmarked : unmarked ∘ Job.deliver = unmarked := rfl
  rcases storeAfter_cases o j c ending with hkept | ⟨-, hmarked⟩
  · rw [hkept]
  · simp [hmarked, hunmarked]

theorem storeAfter_others (ending : Ending) {id : Uuid} (h : id ≠ o.job) :
    (storeAfter o j c ending).jobs.get id = c.jobs.get id := by
  rcases storeAfter_cases o j c ending with hkept | ⟨-, hmarked⟩
  · rw [hkept]
  · simp [hmarked, Table.get_modify_other, h]

@[simp] theorem storeAfter_docs (ending : Ending) : (storeAfter o j c ending).docs = c.docs := by
  rcases storeAfter_cases o j c ending with hkept | ⟨-, hmarked⟩
  · rw [hkept]
  · simp [hmarked]

theorem deliveryCourse_events (o : JobSession S) (cfg : CallbackSettings) (out : Replies) (j : Job)
    (c : Store) : ∃ n ≤ cfg.callbackRetryAttempts,
    (deliveryCourse o cfg out j c).1 = (List.range' 1 n).map (posted out
        (payloadOf o.job j (c.docsForJob o.job).length) j.callbackUrl) ++
      if (deliveryCourse o cfg out j c).2 = .delivered then [.marked] else [] := by
  unfold deliveryCourse
  split
  · exact course_events cfg.callbackRetryAttempts 1 cfg.callbackRetryBackoff false
  · exact ⟨0, Nat.zero_le _, by simp⟩

theorem deliveryCourse_raised_iff :
    (deliveryCourse o cfg out j c).2 ≠ .raised ↔ Untroubled cfg out j := by
  unfold deliveryCourse
  split
  · rename_i hlisting
    refine (course_raised_iff cfg.callbackRetryAttempts false (by omega)).trans ?_
    simp only [Quiet, true_imp_iff]
    exact ⟨fun h => ⟨hlisting, h.1, h.2⟩, fun h => ⟨h.flush, h.rests⟩⟩
  · rename_i hlisting
    exact iff_of_false (by simp) fun h => hlisting h.listing

theorem posts_append (es es' : List DeliveryEvent) : posts (es ++ es') = posts es ++ posts es' :=
  List.filterMap_append

theorem posts_posted (payload : CallbackPayload) (url : Option String) (ks : List ℕ) :
    posts (ks.map (posted out payload url)) = ks.map fun k => ⟨url, payload, out.post k⟩ := by
  induction ks with
  | nil => rfl
  | cons k ks ih => simpa [posts, posted] using ih

theorem mem_posts {p : CallbackPost} {es : List DeliveryEvent} :
    p ∈ posts es ↔ .post p ∈ es := by
  unfold posts
  rw [List.mem_filterMap]
  constructor
  · rintro ⟨e, he, hp⟩
    cases e with
    | post q =>
      obtain rfl := Option.some.inj hp
      exact he
    | marked => cases hp
  · exact fun h => ⟨_, h, rfl⟩

theorem accepted_of_answered {payload : CallbackPayload} {url : Option String} {k : ℕ}
    (h : answered out k = true) : accepted ⟨url, payload, out.post k⟩ := by
  unfold answered at h
  split at h
  · rename_i status hpost
    exact ⟨status, hpost, of_decide_eq_true h⟩
  · cases h

/-- At least one of the POSTs was accepted when the course ends with a delivery. -/
theorem deliveryCourse_accepted (h : (deliveryCourse o cfg out j c).2 = .delivered) :
    ∃ p ∈ posts (deliveryCourse o cfg out j c).1, accepted p := by
  unfold deliveryCourse at h ⊢
  split at h
  · rename_i hlisting
    rw [if_pos hlisting]
    obtain ⟨k, hk, hmem⟩ := course_delivered h
    exact ⟨_, mem_posts.mpr hmem, accepted_of_answered hk⟩
  · cases h

/-- The POSTs of a call: one for each attempt, with the same content. -/
theorem deliveryCourse_sent (o : JobSession S) (cfg : CallbackSettings) (out : Replies) (j : Job)
    (c : Store) : ∃ n ≤ cfg.callbackRetryAttempts,
    posts (deliveryCourse o cfg out j c).1 = (List.range' 1 n).map fun k =>
      ⟨j.callbackUrl, payloadOf o.job j (c.docsForJob o.job).length, out.post k⟩ := by
  obtain ⟨n, hn, hes⟩ := deliveryCourse_events o cfg out j c
  refine ⟨n, hn, ?_⟩
  rw [hes, posts_append, posts_posted]
  split <;> simp [posts]

/-- Every POST tells the status and the counters of the session's copy of the job. -/
theorem deliveryCourse_payload : ∀ p ∈ posts (deliveryCourse o cfg out j c).1,
    p.url = j.callbackUrl ∧
      p.payload = payloadOf o.job j (c.docsForJob o.job).length := by
  obtain ⟨n, -, hsent⟩ := deliveryCourse_sent o cfg out j c
  rw [hsent]
  intro p hp
  obtain ⟨k, -, rfl⟩ := List.mem_map.mp hp
  exact ⟨rfl, rfl⟩

theorem deliveryCourse_posts :
    (posts (deliveryCourse o cfg out j c).1).length ≤ cfg.callbackRetryAttempts := by
  obtain ⟨n, hn, hsent⟩ := deliveryCourse_sent o cfg out j c
  simpa [hsent] using hn

/-- What follows an element that only the last place of a list can hold. -/
theorem eq_nil_of_last {α : Type} {a : α} {xs tail before after : List α} (hxs : a ∉ xs)
    (htail : tail.length ≤ 1) (h : before ++ a :: after = xs ++ tail) : after = [] := by
  obtain ⟨rest, rfl, hrest⟩ | ⟨rest, -, rfl⟩ := List.append_eq_append_iff.mp h
  · cases rest with
    | nil =>
      rw [List.nil_append] at hrest
      simpa [← hrest] using htail
    | cons e rest =>
      obtain ⟨rfl, -⟩ := List.cons.inj hrest
      exact absurd (by simp) hxs
  · simp only [List.length_append, List.length_cons] at htail
    exact List.length_eq_zero_iff.mp (by omega)

theorem deliveryCourse_once (before after : List DeliveryEvent)
    (h : (deliveryCourse o cfg out j c).1 = before ++ .marked :: after) : posts after = [] := by
  obtain ⟨n, -, hes⟩ := deliveryCourse_events o cfg out j c
  rw [h] at hes
  rw [eq_nil_of_last (by simp [posted]) (by split <;> simp) hes]
  rfl

/-- A call that has taken its course keeps the promise if it returns. -/
theorem promise_of_followed {d : Delivery S}
    (h : Followed o j c [] (deliveryCourse o cfg out j c) d) : Promise o cfg c (.ok (), d) := by
  obtain ⟨hstore, hes⟩ := h
  rw [List.nil_append] at hes
  constructor
  · simpa [hes] using deliveryCourse_posts
  · intro before after hevents
    exact deliveryCourse_once before after (hes.symm.trans hevents)
  · intro row hrow htold
    rcases storeAfter_cases o j c (deliveryCourse o cfg out j c).2 with
      hkept | ⟨hdelivered, -⟩
    · rw [hstore, hkept] at hrow
      exact .inl ⟨row, hrow, htold⟩
    · rw [hes]
      exact .inr (deliveryCourse_accepted hdelivered)
  · simp [hstore]
  · intro id hid
    simp [hstore, storeAfter_others _ hid]
  · simp [hstore]
  · rfl

/-- `_fire_callback` keeps its promise exactly when nothing troubles it that it does not catch. -/
theorem callback_delivery_iff (h : o.Documented) (cfg : CallbackSettings) (out : Replies) {s : S}
    (hs : o.At .ready j c s) :
    Promise o cfg c ((fireCallback o cfg out).run { session := s }) ↔ Untroubled cfg out j := by
  have hrun := fireCallback_ensures h cfg out { session := s } ⟨hs, rfl⟩
  rw [← deliveryCourse_raised_iff (o := o) (c := c)]
  revert hrun
  rcases (fireCallback o cfg out).run { session := s } with ⟨result, d⟩
  cases result with
  | ok _ => exact fun hrun => iff_of_true (promise_of_followed hrun.1) hrun.2
  | error e =>
    intro hrun
    refine iff_of_false (fun hpromise => ?_) (not_not_intro hrun.2)
    cases hpromise.returns

/-- The rows after a call that returns are those after the step of the run. -/
theorem notifyCallback_store {W : Type} (w : W) {r : Run} (hjob : o.job = r.task.jobId)
    (ending : Ending) : (notifyCallback c w r
      (decide (ending = .delivered ∧ r.job.callbackDelivered = false))).store =
        storeAfter o r.job c ending := by
  by_cases h : ending = .delivered ∧ r.job.callbackDelivered = false
  · simp only [notifyCallback, storeAfter, h, hjob]
    rfl
  · simp [notifyCallback, storeAfter, h]

/-- A call is one step of the run that makes it: the attempt, or the way to `self.retry`. -/
theorem fireCallback_step {I W : Type} (h : o.Documented) (cfg : CallbackSettings) (out : Replies)
    (F : Fetcher I W) (now : Time) (w : W) {r : Run} {s : S} (hphase : r.phase = .notifying)
    (hjob : o.job = r.task.jobId) (hs : o.At .ready r.job c s) :
    ∃ act effect, workerStep F now c w r act = some effect ∧
      effect.store = o.committed ((fireCallback o cfg out).run { session := s }).2.session ∧
      (((fireCallback o cfg out).run { session := s }).1 = .ok () ↔ ∃ told, act = .notify told) ∧
      ∀ p ∈ posts ((fireCallback o cfg out).run { session := s }).2.events,
        p.url = r.job.callbackUrl ∧
          p.payload = payloadOf r.task.jobId r.job (c.docsForJob r.task.jobId).length := by
  have hrun := fireCallback_ensures h cfg out { session := s } ⟨hs, rfl⟩
  revert hrun
  rcases (fireCallback o cfg out).run { session := s } with ⟨result, d⟩
  rw [← hjob]
  cases result with
  | ok _ =>
    rintro ⟨⟨hstore, hes⟩, -⟩
    have hnotify : ∀ told, workerStep F now c w r (.notify told) = some (notifyCallback c w r told) :=
      fun told => by simp [workerStep, hphase]
    have hrows := notifyCallback_store (c := c) w hjob (deliveryCourse o cfg out r.job c).2
    refine ⟨_, _, hnotify _, hrows.trans hstore.symm, by simp, ?_⟩
    rw [hes]
    exact deliveryCourse_payload
  | error e =>
    rintro ⟨⟨hstore, hes⟩, hraised⟩
    refine ⟨.abort, abortRun c w r, by simp [workerStep, hphase, Phase.live], ?_, by simp, ?_⟩
    · simpa [storeAfter, hraised, abortRun] using hstore.symm
    · rw [hes]
      exact deliveryCourse_payload

end Call

section Concrete

def completedJob : Job :=
  { (default : Job) with
    status := .completed
    callbackUrl := some "https://example.test/hooks/research/job-complete" }

def completedStore : Store := { jobs := ⟨[(7, completedJob)], by decide⟩, docs := .empty }

def completedSession : OrmSession := { committed := completedStore, loaded := some completedJob }

/-- The receiver is busy at first, and then accepts what it is sent. -/
def busyOnce : Replies where
  post attempt := .ok (if attempt = 1 then 503 else 200)

theorem untroubled_busyOnce : Untroubled {} busyOnce completedJob where
  listing := rfl
  flush _ _ _ _ := rfl
  rests _ _ _ _ _ := rfl

theorem callback_delivery_busy :
    Promise (OrmSession.ofJob 7) {} completedStore
        ((fireCallback (OrmSession.ofJob 7) {} busyOnce).run { session := completedSession }) ∧
      ((OrmSession.ofJob 7).committed ((fireCallback (OrmSession.ofJob 7) {} busyOnce).run
        { session := completedSession }).2.session).jobs.get 7 = some completedJob.deliver :=
  ⟨(callback_delivery_iff (OrmSession.ofJob_documented 7) {} busyOnce
    (OrmSession.at_iff.mpr rfl)).mpr untroubled_busyOnce, rfl⟩

/-- A run that has committed job 7 and turns to its callback. -/
def notifyingRun : Run :=
  { Run.idle with
    task := { jobId := 7, tenantId := 0, actorId := 0 }
    job := completedJob
    phase := .notifying }

def noSources : Fetcher Unit Unit := fun _ _ w => (.error "unreachable", w)

theorem busy_callback_step : ∃ act effect,
    workerStep noSources 5 completedStore () notifyingRun act = some effect ∧
      effect.store = (OrmSession.ofJob 7).committed
        ((fireCallback (OrmSession.ofJob 7) {} busyOnce).run { session := completedSession }).2.session ∧
      ∃ told, act = .notify told := by
  obtain ⟨act, effect, hstep, hstore, hret, -⟩ :=
    fireCallback_step (OrmSession.ofJob_documented 7) {} busyOnce noSources 5 ()
      (r := notifyingRun) rfl rfl (OrmSession.at_iff.mpr rfl)
  exact ⟨act, effect, hstep, hstore, hret.mp rfl⟩

/-- The receiver accepts the POST, and the database has closed the connection by then. -/
def closedConnection : Replies where
  post _ := .ok 200
  flush _ := some "server closed the connection unexpectedly"

theorem flush_refused :
    ((fireCallback (OrmSession.ofJob 7) {} closedConnection).run
        { session := completedSession }).1 =
        .error (.database (OrmSession.refusal .rolledBack)) ∧
      ¬ ∀ (cfg : CallbackSettings) (out : Replies) (job : Uuid) (j : Job) (c : Store) (s : OrmSession),
        1 ≤ cfg.callbackRetryAttempts → out.listing = none → (∀ delay, out.sleep delay = none) →
          (OrmSession.ofJob job).At .ready j c s →
            Promise (OrmSession.ofJob job) cfg c
              ((fireCallback (OrmSession.ofJob job) cfg out).run { session := s }) := by
  refine ⟨rfl, fun h => ?_⟩
  have hpromise := h {} closedConnection 7 completedJob completedStore completedSession (by decide)
    rfl (fun _ => rfl) (OrmSession.at_iff.mpr rfl)
  cases hpromise.returns

end Concrete

end Callback
end ResearchEngine
