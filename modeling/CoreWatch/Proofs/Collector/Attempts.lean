import CoreWatch.Collector.Fetch
import Mathlib.Data.List.Induction

set_option autoImplicit false

/-!
A collector after any number of attempts to fetch: the registry knows of those that brought a text,
the status of all of them, and the two agree on what is held. A failure only adds to what is said
about attempts; what was known before it stays known.
-/

namespace CoreWatch.Collector

/-- One fetch: the moment when it is over, and what comes of it. -/
structure Attempt where
  now : Moment
  exchange : Exchange

namespace Attempt

/-- The text that an attempt brings: the body of a reply that reports success, if it is whole. -/
def text? (attempt : Attempt) : Option String :=
  match attempt.exchange with
  | .ok ⟨status, .ok text⟩ => if Http.isSuccess status then some text else none
  | _ => none

def failed (attempt : Attempt) : Bool :=
  attempt.text?.isNone

/--
What is said of an attempt that brings no text: the status, where that is the reason, or else what
the client has to say of the request or of the body.
-/
def complaint? (attempt : Attempt) (url : String) : Option String :=
  match attempt.exchange with
  | .error cause => some ("request to " ++ url ++ " failed: " ++ cause)
  | .ok ⟨status, body⟩ =>
    if !Http.isSuccess status then some (url ++ " returned HTTP " ++ toString status)
    else
      match body with
      | .error cause => some ("request to " ++ url ++ " failed: " ++ cause)
      | .ok _ => none

/-- What is received is the text of the attempt, or else what is said of it. -/
theorem received_cases (attempt : Attempt) :
    (∃ text, attempt.text? = some text ∧ received attempt.exchange = .ok text ∧
        ∀ url, attempt.complaint? url = none) ∨
      ∃ fault, attempt.text? = none ∧ received attempt.exchange = .error fault ∧
        ∀ url, attempt.complaint? url = some (fault.message url) := by
  obtain ⟨now, cause | ⟨status, body⟩⟩ := attempt
  · exact Or.inr ⟨.unanswered cause, rfl, rfl, fun _ => rfl⟩
  · cases success : Http.isSuccess status with
    | false =>
      refine Or.inr ⟨.badStatus status, ?_, ?_, fun url => ?_⟩
      · cases body <;> simp [text?, success]
      · simp [received, success, Except.mapError, bind, Except.bind]
      · simp [complaint?, success, FetchFault.message]
    | true =>
      cases body with
      | ok text =>
        refine Or.inl ⟨text, ?_, ?_, fun url => ?_⟩
        · simp [text?, success]
        · simp [received, success, Except.mapError, bind, Except.bind]
        · simp [complaint?, success]
      | error cause =>
        refine Or.inr ⟨.unanswered cause, rfl, ?_, fun url => ?_⟩
        · simp [received, success, Except.mapError, bind, Except.bind]
        · simp [complaint?, success, FetchFault.message]

/-- Something is said exactly of the attempts that bring no text. -/
theorem isSome_complaint? (attempt : Attempt) (url : String) :
    (attempt.complaint? url).isSome = attempt.failed := by
  rcases attempt.received_cases with ⟨text, sent, _, silent⟩ | ⟨fault, none, _, said⟩
  · rw [silent, failed, sent]
    rfl
  · rw [said, failed, none]
    rfl

end Attempt

/-! One attempt -/

theorem fetch_text (collector : Collector) {attempt : Attempt} {text : String}
    (sent : attempt.text? = some text) :
    collector.fetch attempt.now attempt.exchange =
      { collector with
        registry := collector.registry.ingest (Exposition.samples text)
        status := collector.status.success attempt.now
          (collector.registry.ingest (Exposition.samples text)).familyCount
          (collector.registry.ingest (Exposition.samples text)).seriesCount } := by
  rcases attempt.received_cases with ⟨other, same, received, _⟩ | ⟨fault, none, _, _⟩
  · obtain rfl := Option.some.inj (sent.symm.trans same)
    simp only [fetch, received]
  · rw [none] at sent
    cases sent

theorem fetch_failed (collector : Collector) {attempt : Attempt}
    (failed : attempt.failed = true) :
    ∃ error, attempt.complaint? collector.spec.sourceUrl = some error ∧
      collector.fetch attempt.now attempt.exchange =
        { collector with status := collector.status.failure attempt.now error } := by
  rcases attempt.received_cases with ⟨text, sent, _, _⟩ | ⟨fault, _, received, said⟩
  · rw [Attempt.failed, sent] at failed
    cases failed
  · exact ⟨fault.message collector.spec.sourceUrl, said _, by simp only [fetch, received]⟩

/-! Any number of attempts -/

def fetchAll (collector : Collector) (attempts : List Attempt) : Collector :=
  attempts.foldl (fun collector attempt => collector.fetch attempt.now attempt.exchange) collector

/-- The registry that has taken in the texts of some attempts, in their order. -/
def registryOf (spec : Spec) (attempts : List Attempt) : Registry :=
  (attempts.filterMap Attempt.text?).foldl
    (fun registry text => registry.ingest (Exposition.samples text))
    (.empty spec.component spec.function)

/-- What a collector holds, and says about itself, after some attempts. -/
structure Tells (spec : Spec) (attempts : List Attempt) (collector : Collector) : Prop where
  watches : collector.spec = spec
  registry : collector.registry = registryOf spec attempts
  fetches : collector.status.fetchCount = attempts.length
  failures : collector.status.failureCount = attempts.countP (·.failed)
  lastAttempt : collector.status.lastAttempt = attempts.getLast?.map (·.now)
  lastError : collector.status.lastError = attempts.getLast?.bind (·.complaint? spec.sourceUrl)
  lastSuccess : collector.status.lastSuccess =
    (attempts.filter fun attempt => !attempt.failed).getLast?.map (·.now)
  metrics : collector.status.metricCount = collector.registry.familyCount
  series : collector.status.seriesCount = collector.registry.seriesCount

theorem start_tells (spec : Spec) (settings : Settings) (now : Moment) :
    (start spec settings now).Tells spec [] where
  watches := rfl
  registry := rfl
  fetches := rfl
  failures := rfl
  lastAttempt := rfl
  lastError := rfl
  lastSuccess := rfl
  metrics := rfl
  series := rfl

theorem Tells.fetch {spec : Spec} {attempts : List Attempt} {collector : Collector}
    (tells : collector.Tells spec attempts) (attempt : Attempt) :
    (collector.fetch attempt.now attempt.exchange).Tells spec (attempts ++ [attempt]) := by
  cases sent : attempt.text? with
  | some text =>
    have succeeded : attempt.failed = false := by rw [Attempt.failed, sent]; rfl
    have silent : attempt.complaint? spec.sourceUrl = none := by
      rw [← Option.isNone_iff_eq_none, ← Option.not_isSome, attempt.isSome_complaint?, succeeded]
      rfl
    have known : collector.registry.ingest (Exposition.samples text) =
        registryOf spec (attempts ++ [attempt]) := by
      have texts : (attempts ++ [attempt]).filterMap Attempt.text? =
          attempts.filterMap Attempt.text? ++ [text] := by
        rw [List.filterMap_append, List.filterMap_cons_some sent, List.filterMap_nil]
      rw [tells.registry, registryOf, registryOf, texts, List.foldl_append]
      rfl
    rw [fetch_text collector sent]
    refine ⟨tells.watches, known, ?_, ?_, ?_, ?_, ?_, rfl, rfl⟩
    · simp [FetchStatus.success, tells.fetches]
    · simp [FetchStatus.success, tells.failures, succeeded]
    · simp [FetchStatus.success]
    · simp [FetchStatus.success, silent]
    · simp [FetchStatus.success, succeeded]
  | none =>
    have failed : attempt.failed = true := by rw [Attempt.failed, sent]; rfl
    have known : registryOf spec (attempts ++ [attempt]) = registryOf spec attempts := by
      rw [registryOf, List.filterMap_append, List.filterMap_cons_none sent, List.filterMap_nil,
        List.append_nil, registryOf]
    obtain ⟨error, said, after⟩ := fetch_failed collector failed
    rw [tells.watches] at said
    rw [after]
    refine ⟨tells.watches, tells.registry.trans known.symm, ?_, ?_, ?_, ?_, ?_, tells.metrics,
      tells.series⟩
    · simp [FetchStatus.failure, tells.fetches]
    · simp [FetchStatus.failure, tells.failures, failed]
    · simp [FetchStatus.failure]
    · simp [FetchStatus.failure, said]
    · simp [FetchStatus.failure, tells.lastSuccess, failed]

theorem fetchAll_tells (spec : Spec) (settings : Settings) (now : Moment)
    (attempts : List Attempt) :
    ((start spec settings now).fetchAll attempts).Tells spec attempts := by
  induction attempts using List.reverseRecOn with
  | nil => exact start_tells spec settings now
  | append_singleton attempts attempt ih =>
    rw [fetchAll, List.foldl_append]
    exact ih.fetch attempt

/--
After any attempts, the registry is that of the texts which came, in their order. The status counts
all attempts and those that failed, complains of the last one exactly if it failed, and knows the
time of the last one that did not; its numbers of metrics and series are those of the registry. A
further failure changes neither the text that is served nor what is known of successes.
-/
theorem failure_keeps_known (spec : Spec) (settings : Settings) (now : Moment)
    (attempts : List Attempt) :
    let collector := (start spec settings now).fetchAll attempts
    let status := collector.status
    collector.registry = registryOf spec attempts ∧
      status.fetchCount = attempts.length ∧
      status.failureCount = attempts.countP (·.failed) ∧
      (status.lastError.isSome ↔ ∃ last, attempts.getLast? = some last ∧ last.failed = true) ∧
      (∀ last, attempts.getLast? = some last →
        status.lastError = last.complaint? spec.sourceUrl) ∧
      (status.lastSuccess.isSome ↔ ∃ attempt ∈ attempts, attempt.failed = false) ∧
      (∀ before success after, attempts = before ++ success :: after → success.failed = false →
        (∀ later ∈ after, later.failed = true) → status.lastSuccess = some success.now) ∧
      status.metricCount = collector.registry.familyCount ∧
      status.seriesCount = collector.registry.seriesCount ∧
      ∀ attempt : Attempt, attempt.failed = true →
        let after := collector.fetch attempt.now attempt.exchange
        after.registry = collector.registry ∧ after.registry.encode = collector.registry.encode ∧
          after.status.lastSuccess = status.lastSuccess ∧
          after.status.metricCount = status.metricCount ∧
          after.status.seriesCount = status.seriesCount := by
  intro collector status
  have tells : collector.Tells spec attempts := fetchAll_tells spec settings now attempts
  refine ⟨tells.registry, tells.fetches, tells.failures, ?_, ?_, ?_, ?_, tells.metrics,
    tells.series, ?_⟩
  · rw [tells.lastError]
    cases attempts.getLast? with
    | none => simp
    | some last => simp [Attempt.isSome_complaint?]
  · intro last there
    rw [tells.lastError, there, Option.bind_some]
  · rw [tells.lastSuccess, Option.isSome_map, List.getLast?_isSome]
    simp
  · intro before success after split succeeded rest
    have none : after.filter (fun attempt => !attempt.failed) = [] := by
      rw [List.filter_eq_nil_iff]
      intro later listed
      rw [rest later listed]
      exact Bool.false_ne_true
    rw [tells.lastSuccess, split, List.filter_append, List.filter_cons_of_pos (by simp [succeeded]),
      none, List.getLast?_append]
    rfl
  · intro attempt failed
    obtain ⟨error, _, after⟩ := fetch_failed collector failed
    rw [after]
    exact ⟨rfl, rfl, rfl, rfl, rfl⟩

end CoreWatch.Collector
