import ErgGo.Auth.RefreshSpec

/-!
# Honest refreshes

A client that presents, call after call, the token it was given last. While its session holds
the hash of that token every store step of a refresh succeeds; what can refuse the call is the
mark of a token used before, and a token comes back only if it is issued in the second of its
predecessor.
-/

namespace ErgGo.Auth
open Go Documents Concurrent Program Lms Postgres AccessControl AuthLibrary

/-- One call of a run: the token presented, the result and the requests carried out. -/
structure RefreshCall where
  presented : String
  result : Except AuthError TokenResponse
  history : List AuthEvent

section Runs

variable [Library] [AuthLibrary] (cfg : AuthConfig)

/-- Each call presents the token that the call before returned, from the same device. -/
def honestRefreshes (deviceID : String) : List (ℕ → AuthEnv × Fault) → AuthStore → String → List RefreshCall
  | [], _, _ => []
  | envs :: rest, s, token =>
    let out := (refreshToken cfg ⟨token, deviceID⟩).run.recorded exec envs (s, [])
    ⟨token, out.1, out.2.2⟩ :: match out.1 with
      | .ok tokens => honestRefreshes deviceID rest out.2.1 tokens.refreshToken
      | .error _ => []

/-- No fault, a clock that does not run backwards, and a presented token in its lifetime. -/
structure RefreshCall.Honest (call : RefreshCall) : Prop where
  noFaults : ∀ e ∈ call.history, e.env.2 = .none
  nondecreasing : call.history.Pairwise (fun d e => d.env.1.now ≤ e.env.1.now)
  lifetime : ∀ presented, parse cfg.jwtRefreshSecret call.presented = some presented →
    ∀ e ∈ call.history, e.env.1.now < presented.expiresAt * 1000000000

/-- The call issues its pair with later times than the presented token carries. -/
def RefreshCall.IssuesLater (call : RefreshCall) : Prop :=
  ∀ presented, parse cfg.jwtRefreshSecret call.presented = some presented →
    ∀ e ∈ call.history, ∀ now sessionID userID, Issues cfg e now sessionID userID → presented.stamp < issueStamp cfg now

variable {cfg} {p : Presented}

omit [Library] in
lemma RefreshCall.Honest.provenance {call : RefreshCall} (h : call.Honest cfg) {presented : JWTClaims}
    (hpresented : parse cfg.jwtRefreshSecret call.presented = some presented) :
    Provenance (TimelyEvent presented.expiresAt) call.history := by
  intro h₁ e h₂ hsplit
  have he : e ∈ call.history := by simp [hsplit]
  have hordered := h.nondecreasing
  rw [hsplit] at hordered
  refine ⟨fun d hd => ?_, h.lifetime presented hpresented e he⟩
  exact (List.pairwise_append.mp hordered).2.2 d hd e List.mem_cons_self

omit [Library] [AuthLibrary] in
lemma rtUsedKey_injective (userID : String) : Function.Injective (rtUsedKey userID) := by
  intro hash hash' h
  exact (String.append_right_inj _).mp h

/-- What the marks of the tokens used so far leave of the keys that were absent at the start:
all those of later tokens. -/
structure UsedMarks (cfg : AuthConfig) (userID : String) (s₀ s : AuthStore) (used : List String) (issuedAt : Time) : Prop where
  earlier : ∀ t ∈ used, ∃ claims, parse cfg.jwtRefreshSecret t = some claims ∧ claims.stamp < issueStamp cfg issuedAt
  absent : ∀ key, s₀.redis.lookup key = none → (∀ t ∈ used, key ≠ rtUsedKey userID (hashSHA256 t)) →
    s.redis.lookup key = none

omit [Library] in
/-- One more call: its token joins those used. -/
lemma UsedMarks.step {s₀ s s' : AuthStore} {used : List String} {now : Time}
    (hmarks : UsedMarks cfg p.user.id.hex s₀ s used p.issuedAt) (hlater : (p.claims cfg).stamp < issueStamp cfg now)
    (hkept : KeepsAbsent (p.markKey cfg) s s') : UsedMarks cfg p.user.id.hex s₀ s' (p.token cfg :: used) now where
  earlier t ht := by
    obtain rfl | ht := List.mem_cons.mp ht
    · exact ⟨p.claims cfg, parse_sign _ _, hlater⟩
    · obtain ⟨claims, hparse, hstamp⟩ := hmarks.earlier t ht
      exact ⟨claims, hparse, hstamp.trans hlater⟩
  absent key hkey hne := by
    have habsent := hmarks.absent key hkey (fun t ht => hne t (List.mem_cons_of_mem _ ht))
    exact hkept key (hne (p.token cfg) List.mem_cons_self) habsent

/-- The invariant of a run: the session holds the token that comes next, and the marks are
those of earlier tokens. -/
lemma honestRefreshes_succeed_from {userID : String} {s₀ : AuthStore} (tokens : List String)
    (hunmarked : cfg.redis → ∀ t ∈ tokens, s₀.redis.lookup (rtUsedKey userID (hashSHA256 t)) = none)
    (hcollisions : ∀ t ∈ tokens, ∀ t' ∈ tokens, hashSHA256 t = hashSHA256 t' → t = t')
    (envss : List (ℕ → AuthEnv × Fault)) {s : AuthStore} {p : Presented} {used : List String} (hholds : Holds cfg p s)
    (huser : p.user.id.hex = userID) (hmarks : cfg.redis → UsedMarks cfg userID s₀ s used p.issuedAt)
    (hused : ∀ t ∈ used, t ∈ tokens)
    (hcalls : ∀ call ∈ honestRefreshes cfg p.deviceID envss s (p.token cfg),
      call.presented ∈ tokens ∧ call.Honest cfg ∧ (cfg.redis → call.IssuesLater cfg)) :
    ∀ call ∈ honestRefreshes cfg p.deviceID envss s (p.token cfg), ∃ tokens, call.result = .ok tokens := by
  induction envss generalizing s p used with
  | nil =>
    intro call hcall
    cases hcall
  | cons envs rest ih =>
    subst huser
    unfold honestRefreshes at hcalls ⊢
    dsimp only at hcalls ⊢
    obtain ⟨hpresented, hhonest, hlater⟩ := hcalls _ List.mem_cons_self
    have hparse : parse cfg.jwtRefreshSecret (p.token cfg) = some (p.claims cfg) := parse_sign _ _
    have hfresh : Unmarked cfg p s := by
      intro hredis
      refine (hmarks hredis).absent _ (hunmarked hredis _ hpresented) fun t ht hkey => ?_
      have hsame : p.token cfg = t := hcollisions _ hpresented t (hused t ht) (rtUsedKey_injective _ hkey)
      obtain ⟨claims, hclaims, hstamp⟩ := (hmarks hredis).earlier t ht
      rw [← hsame, hparse] at hclaims
      cases hclaims
      exact lt_irrefl _ hstamp
    have hstep : let out := (refreshToken cfg ⟨p.token cfg, p.deviceID⟩).run.recorded exec envs (s, [])
        Outcome (Refreshed cfg p s) (fun _ w' => Failed cfg p w') out.1 out.2 :=
      (attempt_refreshToken hholds hfresh).sound envs (hhonest.provenance hparse)
    dsimp only at hstep
    generalize (refreshToken cfg ⟨p.token cfg, p.deviceID⟩).run.recorded exec envs (s, []) = out at *
    obtain ⟨result, s', h⟩ := out
    cases result with
    | error e =>
      obtain ⟨⟨d, hd, hfault⟩, -⟩ := hstep
      exact absurd (hhonest.noFaults d hd) hfault
    | ok pair =>
      obtain ⟨hkept, session', now, -, ⟨e, he, hissues⟩, htoken, hholds'⟩ := hstep
      intro call hcall
      obtain rfl | hcall := List.mem_cons.mp hcall
      · exact ⟨pair, rfl⟩
      · have hmarks' : cfg.redis → UsedMarks cfg p.user.id.hex s₀ s' (p.token cfg :: used) now := by
          intro hredis
          exact (hmarks hredis).step (hlater hredis _ hparse e he now _ _ hissues) hkept
        have hused' : ∀ t ∈ p.token cfg :: used, t ∈ tokens := List.forall_mem_cons.mpr ⟨hpresented, hused⟩
        dsimp only at hcall hcalls
        rw [htoken] at hcall hcalls
        exact ih hholds' rfl hmarks' hused' (fun call hcall => hcalls call (List.mem_cons_of_mem _ hcall)) call hcall

/-- In a run of honest refreshes every call succeeds, if no used marks are kept, or if every
pair is issued later than the presented one. -/
theorem honestRefreshes_succeed {s : AuthStore} {envss : List (ℕ → AuthEnv × Fault)} (hholds : Holds cfg p s)
    (hhonest : ∀ call ∈ honestRefreshes cfg p.deviceID envss s (p.token cfg), call.Honest cfg)
    (hunmarked : ∀ call ∈ honestRefreshes cfg p.deviceID envss s (p.token cfg),
      s.redis.lookup (rtUsedKey p.user.id.hex (hashSHA256 call.presented)) = none)
    (hcollisions : ∀ call ∈ honestRefreshes cfg p.deviceID envss s (p.token cfg),
      ∀ call' ∈ honestRefreshes cfg p.deviceID envss s (p.token cfg),
        hashSHA256 call.presented = hashSHA256 call'.presented → call.presented = call'.presented)
    (hlater : cfg.redis = false ∨
      ∀ call ∈ honestRefreshes cfg p.deviceID envss s (p.token cfg), call.IssuesLater cfg) :
    ∀ call ∈ honestRefreshes cfg p.deviceID envss s (p.token cfg), ∃ tokens, call.result = .ok tokens := by
  have hmarks : cfg.redis → UsedMarks cfg p.user.id.hex s s [] p.issuedAt := fun _ => ⟨by simp, fun _ hkey _ => hkey⟩
  refine honestRefreshes_succeed_from
    ((honestRefreshes cfg p.deviceID envss s (p.token cfg)).map RefreshCall.presented) ?_ ?_ envss hholds rfl hmarks
    (by simp) (fun call hcall => ?_)
  · rintro - t ht
    obtain ⟨call, hcall, rfl⟩ := List.mem_map.mp ht
    exact hunmarked call hcall
  · intro t ht t' ht'
    obtain ⟨call, hcall, rfl⟩ := List.mem_map.mp ht
    obtain ⟨call', hcall', rfl⟩ := List.mem_map.mp ht'
    exact hcollisions call hcall call' hcall'
  · refine ⟨List.mem_map_of_mem hcall, hhonest call hcall, fun hredis => ?_⟩
    obtain hnone | hlater := hlater
    · rw [hnone] at hredis
      cases hredis
    · exact hlater call hcall

end Runs

section Sample

attribute [local instance] asciiLibrary plainAuth

namespace Sample

/-- A refresh at each of these times, with every request answered at once. -/
def refreshesAt (times : List Time) : List RefreshCall :=
  honestRefreshes cfg "" (times.map (fun t _ => ({ now := t }, .none))) loggedIn token

def refused (call : RefreshCall) : Bool :=
  match call.result with
  | .error .tokenReuseDetected => true
  | _ => false

/-- The stamps are those of the tokens issued, and the events the clock and faults met. -/
structure Summary where
  presented : String
  stamps : List (ℤ × ℤ)
  events : List (Time × Fault)
  refused : Bool
  deriving DecidableEq

def summary (call : RefreshCall) : Summary where
  presented := call.presented
  stamps := call.history.filterMap issued
  events := call.history.map (fun e => (e.env.1.now, e.env.2))
  refused := refused call

/-- The token, as it is presented. -/
def presented : Presented := ⟨"", user, session, 0⟩

lemma holds_loggedIn : Holds cfg presented loggedIn where
  known := rfl
  stored := rfl
  named := by decide
  hash := rfl
  active := rfl
  expiry := by decide
  device := .inl rfl

lemma mem_of_summary {call : RefreshCall} {presented : String} {stamps : List (ℤ × ℤ)} {n : ℕ} {t : Time}
    {b : Bool} (h : summary call = ⟨presented, stamps, List.replicate n (t, .none), b⟩) {e : AuthEvent} (he : e ∈ call.history) :
    e.env.1.now = t ∧ e.env.2 = .none := by
  have hevents : call.history.map (fun e => (e.env.1.now, e.env.2)) = List.replicate n (t, .none) :=
    congrArg Summary.events h
  have hmem : (e.env.1.now, e.env.2) ∈ List.replicate n (t, Fault.none) := hevents ▸ List.mem_map_of_mem he
  have heq := List.eq_of_mem_replicate hmem
  exact ⟨congrArg Prod.fst heq, congrArg Prod.snd heq⟩

lemma honest_of_summary {call : RefreshCall} {issuedAt : Time} {stamps : List (ℤ × ℤ)} {n : ℕ} {t : Time}
    {b : Bool} (h : summary call =
      ⟨sign "r" (refreshClaims cfg issuedAt "s" user.id.hex), stamps, List.replicate n (t, .none), b⟩)
    (ht : t < numericDate (issuedAt + cfg.refreshTokenTTL) * 1000000000) : call.Honest cfg where
  noFaults e he := (mem_of_summary h he).2
  nondecreasing := by
    refine List.pairwise_of_forall_mem_list fun d hd e he => ?_
    rw [(mem_of_summary h hd).1, (mem_of_summary h he).1]
  lifetime := by
    intro presented hparse e he
    have htoken : call.presented = sign "r" (refreshClaims cfg issuedAt "s" user.id.hex) := congrArg Summary.presented h
    rw [htoken, show cfg.jwtRefreshSecret = "r" from rfl, parse_sign] at hparse
    cases hparse
    rw [(mem_of_summary h he).1]
    exact ht

lemma issuesLater_of_summary {call : RefreshCall} {issuedAt : Time} {stamp : ℤ × ℤ}
    {events : List (Time × Fault)} {b : Bool}
    (h : summary call = ⟨sign "r" (refreshClaims cfg issuedAt "s" user.id.hex), [stamp], events, b⟩)
    (hstamp : issueStamp cfg issuedAt < stamp) : call.IssuesLater cfg := by
  intro presented hparse e he now sessionID userID hissues
  have htoken : call.presented = sign "r" (refreshClaims cfg issuedAt "s" user.id.hex) := congrArg Summary.presented h
  rw [htoken, show cfg.jwtRefreshSecret = "r" from rfl, parse_sign] at hparse
  cases hparse
  have hissued : issueStamp cfg now ∈ call.history.filterMap issued := by
    refine List.mem_filterMap.mpr ⟨e, he, ?_⟩
    rw [issued, hissues]
    rfl
  have hstamps : call.history.filterMap issued = [stamp] := congrArg Summary.stamps h
  rw [hstamps, List.mem_singleton] at hissued
  rw [hissued]
  exact hstamp

end Sample

/-- Refreshes two and four seconds after the token was issued. -/
theorem honestRefreshes_two_seconds_apart :
    (Sample.refreshesAt [2000000000, 4000000000]).length = 2 ∧
      ∀ call ∈ Sample.refreshesAt [2000000000, 4000000000], ∃ tokens, call.result = .ok tokens := by
  have hsummary : (Sample.refreshesAt [2000000000, 4000000000]).map Sample.summary =
      [⟨sign "r" (refreshClaims Sample.cfg 0 "s" Sample.user.id.hex), [(2, 7)], List.replicate 17 (2000000000, .none), false⟩,
        ⟨sign "r" (refreshClaims Sample.cfg 2000000000 "s" Sample.user.id.hex), [(4, 9)],
          List.replicate 17 (4000000000, .none), false⟩] := by decide +kernel
  have hcases : ∀ call ∈ Sample.refreshesAt [2000000000, 4000000000], call.Honest Sample.cfg ∧ call.IssuesLater Sample.cfg := by
    intro call hcall
    have hmem := List.mem_map_of_mem (f := Sample.summary) hcall
    rw [hsummary, List.mem_cons, List.mem_singleton] at hmem
    obtain hcall | hcall := hmem
    · exact ⟨Sample.honest_of_summary hcall (by decide), Sample.issuesLater_of_summary hcall
        (Prod.mk_lt_mk.mpr (.inl ⟨by decide, by decide⟩))⟩
    · exact ⟨Sample.honest_of_summary hcall (by decide), Sample.issuesLater_of_summary hcall
        (Prod.mk_lt_mk.mpr (.inl ⟨by decide, by decide⟩))⟩
  have hlength : (Sample.refreshesAt [2000000000, 4000000000]).length = 2 := by
    rw [← List.length_map Sample.summary, hsummary]
    rfl
  refine ⟨hlength, honestRefreshes_succeed Sample.holds_loggedIn (fun call hcall => (hcases call hcall).1) ?_ ?_
    (.inr fun call hcall => (hcases call hcall).2)⟩
  · exact fun _ _ => rfl
  · exact fun _ _ _ _ hsame => hsame

/-- The token issued in the second of its predecessor is that predecessor, and marked as used. -/
theorem honest_refresh_refused :
    Holds Sample.cfg Sample.presented Sample.loggedIn ∧
      (∀ call ∈ Sample.refreshesAt [500000000, 600000000], call.Honest Sample.cfg) ∧
      ∃ call ∈ Sample.refreshesAt [500000000, 600000000], call.result = .error .tokenReuseDetected := by
  have hsummary : (Sample.refreshesAt [500000000, 600000000]).map Sample.summary =
      [⟨sign "r" (refreshClaims Sample.cfg 0 "s" Sample.user.id.hex), [(0, 5)], List.replicate 17 (500000000, .none), false⟩,
        ⟨sign "r" (refreshClaims Sample.cfg 0 "s" Sample.user.id.hex), [], List.replicate 3 (600000000, .none), true⟩] := by
    decide +kernel
  refine ⟨Sample.holds_loggedIn, fun call hcall => ?_, ?_⟩
  · have hmem := List.mem_map_of_mem (f := Sample.summary) hcall
    rw [hsummary, List.mem_cons, List.mem_singleton] at hmem
    obtain hcall | hcall := hmem
    · exact Sample.honest_of_summary hcall (by decide)
    · exact Sample.honest_of_summary hcall (by decide)
  · obtain ⟨call, hcall, hlast⟩ := List.mem_map.mp (hsummary ▸ List.mem_cons_of_mem _ List.mem_cons_self)
    refine ⟨call, hcall, ?_⟩
    have hrefused : Sample.refused call = true := congrArg Sample.Summary.refused hlast
    unfold Sample.refused at hrefused
    split at hrefused
    · assumption
    · cases hrefused

end Sample

end ErgGo.Auth
