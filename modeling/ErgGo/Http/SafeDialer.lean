import ErgGo.Lib.GoRuntime

/-!
# The safe dialer

The addresses a host resolves to are checked, and then the host is dialed by its name, which is
a second lookup. Addresses are byte slices as in package net.
-/

namespace ErgGo.HTTPClient
open Go

abbrev IP := List UInt8

namespace IP

def v4InV6Prefix : IP := [0, 0, 0, 0, 0, 0, 0, 0, 0, 0, 0xff, 0xff]

/-- `nil` for a slice that is no IPv4 address. -/
def to4 (ip : IP) : Option IP :=
  if ip.length = 4 then some ip
  else if ip.length = 16 ∧ ip.take 12 = v4InV6Prefix then some (ip.drop 12)
  else none

def to16 (ip : IP) : Option IP :=
  if ip.length = 4 then some (v4InV6Prefix ++ ip)
  else if ip.length = 16 then some ip
  else none

def byte (ip : IP) (i : ℕ) : UInt8 := ip.getD i 0

def ipv4Zero : IP := v4InV6Prefix ++ [0, 0, 0, 0]
def ipv6Unspecified : IP := List.replicate 16 0
def ipv6Loopback : IP := List.replicate 15 0 ++ [1]

/-- An IPv4 address equals its 16-byte form. -/
def equal (ip x : IP) : Bool := ip = x || ip.to16.isSome && ip.to16 = x.to16

/-- A predicate with one condition for IPv4 and one for the other 16-byte addresses. -/
def ofVersion (v4 v6 : IP → Bool) (ip : IP) : Bool :=
  match ip.to4 with
  | some ip4 => v4 ip4
  | none => ip.length = 16 && v6 ip

def isLoopback (ip : IP) : Bool :=
  match ip.to4 with
  | some ip4 => ip4.byte 0 = 127
  | none => ip.equal ipv6Loopback

def isPrivate : IP → Bool := ofVersion
  (fun ip4 => ip4.byte 0 = 10 || (ip4.byte 0 = 172 && ip4.byte 1 &&& 0xf0 = 16) || (ip4.byte 0 = 192 && ip4.byte 1 = 168))
  (fun ip => ip.byte 0 &&& 0xfe = 0xfc)

def isLinkLocalUnicast : IP → Bool := ofVersion
  (fun ip4 => ip4.byte 0 = 169 && ip4.byte 1 = 254)
  (fun ip => ip.byte 0 = 0xfe && ip.byte 1 &&& 0xc0 = 0x80)

def isLinkLocalMulticast : IP → Bool := ofVersion
  (fun ip4 => ip4.byte 0 = 224 && ip4.byte 1 = 0 && ip4.byte 2 = 0)
  (fun ip => ip.byte 0 = 0xff && ip.byte 1 &&& 0x0f = 0x02)

def isUnspecified (ip : IP) : Bool := ip.equal ipv4Zero || ip.equal ipv6Unspecified

def isMulticast : IP → Bool := ofVersion (fun ip4 => ip4.byte 0 &&& 0xf0 = 0xe0) (fun ip => ip.byte 0 = 0xff)

end IP

def isUnsafeAddress (ip : IP) : Bool :=
  match ip.to16 with
  | none => true
  | some ip => ip.isLoopback || ip.isPrivate || ip.isLinkLocalUnicast || ip.isLinkLocalMulticast || ip.isUnspecified ||
      ip.isMulticast

example : [[127, 0, 0, 1], [10, 0, 0, 1], [172, 16, 0, 1], [192, 168, 1, 1], [169, 254, 1, 1], IP.ipv6Loopback,
    [0xfc] ++ List.replicate 14 0 ++ [1]].all isUnsafeAddress := by decide

example : ¬isUnsafeAddress [8, 8, 8, 8] := by decide

section HostPort

inductive AddrError where
  | missingPort
  | tooManyColons
  | missingBracket
  | unexpectedOpening
  | unexpectedClosing
  deriving DecidableEq

/-- What stands before and after the last occurrence. -/
def splitLast (c : Char) : List Char → Option (List Char × List Char)
  | [] => none
  | x :: xs =>
    match splitLast c xs with
    | some (before, after) => some (x :: before, after)
    | none => if x = c then some ([], xs) else none

/-- What stands before and after the first occurrence. -/
def splitFirst (c : Char) : List Char → Option (List Char × List Char)
  | [] => none
  | x :: xs => if x = c then some ([], xs) else (splitFirst c xs).map (fun parts => (x :: parts.1, parts.2))

/-- `net.SplitHostPort` on the characters of the address. -/
def splitHostPort (hostport : List Char) : Except AddrError (List Char × List Char) :=
  match splitLast ':' hostport with
  | none => .error .missingPort
  | some (before, port) =>
    if hostport.head? = some '[' then
      match splitFirst ']' hostport with
      | none => .error .missingBracket
      | some (opened, rest) =>
        if rest = [] then .error .missingPort
        else if before = opened ++ [']'] then
          if '[' ∈ hostport.drop 1 then .error .unexpectedOpening
          else if ']' ∈ rest then .error .unexpectedClosing
          else .ok (opened.drop 1, port)
        else if rest.head? = some ':' then .error .tooManyColons
        else .error .missingPort
    else if ':' ∈ before then .error .tooManyColons
    else if '[' ∈ hostport then .error .unexpectedOpening
    else if ']' ∈ hostport then .error .unexpectedClosing
    else .ok (before, port)

/-- `net.JoinHostPort`. -/
def joinHostPort (host port : List Char) : List Char :=
  if ':' ∈ host then '[' :: host ++ ']' :: ':' :: port else host ++ ':' :: port

lemma splitLast_eq_some {c : Char} {l before after : List Char} (h : splitLast c l = some (before, after)) :
    l = before ++ c :: after ∧ c ∉ after := by
  induction l generalizing before with
  | nil => cases h
  | cons x xs ih =>
    unfold splitLast at h
    cases hrest : splitLast c xs with
    | some parts =>
      rw [hrest] at h
      cases h
      obtain ⟨hxs, hafter⟩ := ih hrest
      exact ⟨congrArg (x :: ·) hxs, hafter⟩
    | none =>
      rw [hrest] at h
      have hnone : ∀ l : List Char, splitLast c l = none → c ∉ l := by
        intro l
        induction l with
        | nil => simp
        | cons y ys ihys =>
          intro hl
          unfold splitLast at hl
          cases hys : splitLast c ys with
          | some parts =>
            rw [hys] at hl
            cases hl
          | none =>
            rw [hys] at hl
            by_cases hy : y = c
            · simp [hy] at hl
            · simpa [Ne.symm hy] using ihys hys
      by_cases hx : x = c
      · simp only [hx, if_true, Option.some.injEq, Prod.mk.injEq] at h
        obtain ⟨rfl, rfl⟩ := h
        exact ⟨by rw [hx, List.nil_append], hnone xs hrest⟩
      · simp [hx] at h

lemma splitLast_append {c : Char} (before : List Char) {after : List Char} (h : c ∉ after) :
    splitLast c (before ++ c :: after) = some (before, after) := by
  have hnone : ∀ l : List Char, c ∉ l → splitLast c l = none := by
    intro l
    induction l with
    | nil => simp [splitLast]
    | cons y ys ih =>
      intro hl
      obtain ⟨hy, hys⟩ := not_or.mp (mt List.mem_cons.mpr hl)
      rw [splitLast, ih hys]
      simp [Ne.symm hy]
  induction before with
  | nil => rw [List.nil_append, splitLast, hnone after h, if_pos rfl]
  | cons x xs ih => rw [List.cons_append, splitLast, ih]

lemma splitFirst_eq_some {c : Char} {l before after : List Char} (h : splitFirst c l = some (before, after)) :
    l = before ++ c :: after ∧ c ∉ before := by
  induction l generalizing before with
  | nil => cases h
  | cons x xs ih =>
    unfold splitFirst at h
    by_cases hx : x = c
    · simp only [hx, if_true, Option.some.injEq, Prod.mk.injEq] at h
      obtain ⟨rfl, rfl⟩ := h
      exact ⟨by rw [hx, List.nil_append], List.not_mem_nil⟩
    · rw [if_neg hx, Option.map_eq_some_iff] at h
      obtain ⟨⟨before', after'⟩, hrest, heq⟩ := h
      simp only [Prod.mk.injEq] at heq
      obtain ⟨rfl, rfl⟩ := heq
      obtain ⟨hxs, hbefore⟩ := ih hrest
      exact ⟨congrArg (x :: ·) hxs, by simpa [Ne.symm hx] using hbefore⟩

lemma splitFirst_append {c : Char} {before : List Char} (h : c ∉ before) (after : List Char) :
    splitFirst c (before ++ c :: after) = some (before, after) := by
  induction before with
  | nil => rw [List.nil_append, splitFirst, if_pos rfl]
  | cons x xs ih =>
    obtain ⟨hx, hxs⟩ := not_or.mp (mt List.mem_cons.mpr h)
    rw [List.cons_append, splitFirst, if_neg (Ne.symm hx), ih hxs]
    rfl

/-- What an accepted address comes apart into. -/
structure Plain (host port : List Char) : Prop where
  host_opening : '[' ∉ host
  host_closing : ']' ∉ host
  port_colon : ':' ∉ port
  port_opening : '[' ∉ port
  port_closing : ']' ∉ port

lemma plain_of_splitHostPort {hostport host port : List Char} (h : splitHostPort hostport = .ok (host, port)) :
    Plain host port := by
  unfold splitHostPort at h
  cases hlast : splitLast ':' hostport with
  | none =>
    rw [hlast] at h
    cases h
  | some parts =>
    obtain ⟨before, port'⟩ := parts
    obtain ⟨hhostport, hcolon⟩ := splitLast_eq_some hlast
    rw [hlast] at h
    dsimp only at h
    split at h
    · cases hfirst : splitFirst ']' hostport with
      | none =>
        rw [hfirst] at h
        cases h
      | some parts =>
        obtain ⟨opened, rest⟩ := parts
        obtain ⟨hsplit, hopened⟩ := splitFirst_eq_some hfirst
        rw [hfirst] at h
        dsimp only at h
        split at h
        · cases h
        · split at h
          · next hbefore =>
            split at h
            · cases h
            · next hopening =>
              split at h
              · cases h
              · next hclosing =>
                cases h
                have hrest : rest = ':' :: port := by
                  rw [hbefore, List.append_assoc] at hhostport
                  have heq := List.append_cancel_left (hsplit.symm.trans hhostport)
                  exact (List.cons.inj heq).2
                have hdrop : '[' ∉ opened.drop 1 ∧ '[' ∉ port := by
                  cases opened with
                  | nil =>
                    rw [hsplit, hrest] at hopening
                    simp only [List.nil_append, List.drop_succ_cons, List.drop_zero, List.mem_cons, not_or] at hopening
                    exact ⟨List.not_mem_nil, hopening.2⟩
                  | cons x xs =>
                    rw [hsplit, hrest] at hopening
                    simp only [List.cons_append, List.drop_succ_cons, List.drop_zero, List.mem_append, List.mem_cons,
                      not_or] at hopening
                    exact ⟨hopening.1, hopening.2.2.2⟩
                rw [hrest] at hclosing
                exact ⟨hdrop.1, fun hmem => hopened (List.mem_of_mem_drop hmem), hcolon, hdrop.2,
                  fun hmem => hclosing (List.mem_cons_of_mem _ hmem)⟩
          · split at h
            · cases h
            · cases h
    · split at h
      · cases h
      · split at h
        · cases h
        · next hopening =>
          split at h
          · cases h
          · next hclosing =>
            cases h
            rw [hhostport] at hopening hclosing
            simp only [List.mem_append, List.mem_cons, not_or] at hopening hclosing
            exact ⟨hopening.1, hclosing.1, hcolon, hopening.2.2, hclosing.2.2⟩

/-- Joining an accepted host and port gives an address that comes apart into them. -/
theorem splitHostPort_joinHostPort {host port : List Char} (h : Plain host port) :
    splitHostPort (joinHostPort host port) = .ok (host, port) := by
  unfold joinHostPort
  by_cases hcolon : ':' ∈ host
  · rw [if_pos hcolon]
    have hlast : splitLast ':' ('[' :: host ++ ']' :: ':' :: port) = some (('[' :: host) ++ [']'], port) := by
      have hsplit := splitLast_append (('[' :: host) ++ [']']) h.port_colon
      rwa [List.append_assoc, List.singleton_append] at hsplit
    have hfirst : splitFirst ']' ('[' :: host ++ ']' :: ':' :: port) = some ('[' :: host, ':' :: port) := by
      refine splitFirst_append ?_ (':' :: port)
      simpa using h.host_closing
    have hhead : ('[' :: host ++ ']' :: ':' :: port).head? = some '[' := rfl
    have hbefore : '[' :: host ++ [']'] = ('[' :: host) ++ [']'] := rfl
    have hopening : '[' ∉ ('[' :: host ++ ']' :: ':' :: port).drop 1 := by
      simp [h.host_opening, h.port_opening]
    have hclosing : ']' ∉ ':' :: port := by simp [h.port_closing]
    unfold splitHostPort
    rw [hlast]
    dsimp only
    rw [if_pos hhead, hfirst]
    dsimp only
    rw [if_neg (List.cons_ne_nil _ _), if_pos hbefore, if_neg hopening, if_neg hclosing]
    rfl
  · rw [if_neg hcolon]
    have hhead : (host ++ ':' :: port).head? ≠ some '[' := by
      cases host with
      | nil => simp
      | cons x xs =>
        have hx : '[' ≠ x := fun heq => h.host_opening (heq ▸ List.mem_cons_self)
        simpa using hx.symm
    have hopening : '[' ∉ host ++ ':' :: port := by simp [h.host_opening, h.port_opening]
    have hclosing : ']' ∉ host ++ ':' :: port := by simp [h.host_closing, h.port_closing]
    unfold splitHostPort
    rw [splitLast_append host h.port_colon]
    dsimp only
    rw [if_neg hhead, if_neg hcolon, if_neg hopening, if_neg hclosing]

end HostPort

section Dial

inductive DialError where
  | splitHostPort (cause : AddrError)
  | emptyHost
  | lookup (host : String)
  | noAddresses (host : String)
  | unsafeAddress (host : String) (ip : IP)
  | dial
  deriving DecidableEq

structure SafeDialerConfig where
  allowPrivateNetworks : Bool := false

/-- The resolver of package net: the addresses of a literal, and the answers to the lookups of
a name in the order in which they are made, none where a lookup fails. -/
structure Resolver where
  parseIP : String → Option IP
  answers : ℕ → Option (List IP)

/-- The lookup of this number. -/
def Resolver.lookupIPAddr (resolver : Resolver) (n : ℕ) (host : String) : Option (List IP) :=
  match resolver.parseIP host with
  | some ip => some [ip]
  | none => resolver.answers n

/-- What connecting to one of several addresses comes to: it reaches one of them or fails. -/
structure Dialer where
  connect : List IP → Option IP
  connect_mem : ∀ addrs ip, connect addrs = some ip → ip ∈ addrs

/-- `net.Dialer.DialContext`, which looks the host up by itself. -/
def Dialer.dialContext (dialer : Dialer) (resolver : Resolver) (n : ℕ) (address : List Char) : Except DialError IP :=
  match splitHostPort address with
  | .error _ => .error .dial
  | .ok (host, _) =>
    match (resolver.lookupIPAddr n (String.ofList host)).bind dialer.connect with
    | some ip => .ok ip
    | none => .error .dial

/-- The address of the connection. -/
def safeDialContext (cfg : SafeDialerConfig) (resolver : Resolver) (dialer : Dialer) (address : String) :
    Except DialError IP :=
  match splitHostPort address.toList with
  | .error cause => .error (.splitHostPort cause)
  | .ok (host, port) =>
    let name := String.ofList host
    if trimSpace name = "" then .error .emptyHost
    else
      match resolver.lookupIPAddr 0 name with
      | none => .error (.lookup name)
      | some ips =>
        if ips = [] then .error (.noAddresses name)
        else
          match ips.find? (fun ip => !cfg.allowPrivateNetworks && isUnsafeAddress ip) with
          | some ip => .error (.unsafeAddress name ip)
          | none => dialer.dialContext resolver 1 (joinHostPort host port)

/-- Whatever address the dialer reaches, it is no unsafe one. -/
def NeverUnsafe (cfg : SafeDialerConfig) (resolver : Resolver) (address : String) : Prop :=
  ∀ (dialer : Dialer) (ip : IP), safeDialContext cfg resolver dialer address = .ok ip → ¬isUnsafeAddress ip

/-- The checks let a name pass whose first lookup finds safe addresses only. -/
def Passes (resolver : Resolver) (host : String) : Prop :=
  trimSpace host ≠ "" ∧ ∃ ips, resolver.lookupIPAddr 0 host = some ips ∧ ips ≠ [] ∧ ∀ ip ∈ ips, ¬isUnsafeAddress ip

/-- Where the host passes the checks, the second lookup has to find safe addresses only as well. -/
def SecondLookupSafe (resolver : Resolver) (address : String) : Prop :=
  ∀ host port, splitHostPort address.toList = .ok (host, port) → Passes resolver (String.ofList host) →
    ∀ ips, resolver.lookupIPAddr 1 (String.ofList host) = some ips → ∀ ip ∈ ips, ¬isUnsafeAddress ip

variable {cfg : SafeDialerConfig} {resolver : Resolver} {address : String}

lemma dialContext_joinHostPort {host port : List Char} (h : Plain host port) (dialer : Dialer) (ip : IP) :
    dialer.dialContext resolver 1 (joinHostPort host port) = .ok ip ↔
      ∃ ips, resolver.lookupIPAddr 1 (String.ofList host) = some ips ∧ dialer.connect ips = some ip := by
  unfold Dialer.dialContext
  rw [splitHostPort_joinHostPort h]
  dsimp only
  cases hlookup : resolver.lookupIPAddr 1 (String.ofList host) with
  | none => simp
  | some ips =>
    cases hconnect : dialer.connect ips with
    | none => simp [hconnect]
    | some reached => simp [hconnect]

/-- A connection is opened where the host passes the checks, to an address of the second lookup. -/
lemma safeDialContext_eq_ok (hprivate : cfg.allowPrivateNetworks = false) (dialer : Dialer) (ip : IP) :
    safeDialContext cfg resolver dialer address = .ok ip ↔
      ∃ host port, splitHostPort address.toList = .ok (host, port) ∧ Passes resolver (String.ofList host) ∧
        ∃ ips, resolver.lookupIPAddr 1 (String.ofList host) = some ips ∧ dialer.connect ips = some ip := by
  unfold safeDialContext
  cases hsplit : splitHostPort address.toList with
  | error cause => simp
  | ok parts =>
    obtain ⟨host, port⟩ := parts
    have hplain := plain_of_splitHostPort hsplit
    simp only [Except.ok.injEq, Prod.mk.injEq, hprivate, Bool.not_false, Bool.true_and]
    by_cases hblank : trimSpace (String.ofList host) = ""
    · simp only [hblank, if_true, reduceCtorEq, false_iff, not_exists]
      rintro host' port' ⟨⟨rfl, rfl⟩, hpasses, -⟩
      exact hpasses.1 hblank
    · rw [if_neg hblank]
      cases hlookup : resolver.lookupIPAddr 0 (String.ofList host) with
      | none =>
        simp only [reduceCtorEq, false_iff, not_exists]
        rintro host' port' ⟨⟨rfl, rfl⟩, ⟨-, ips, hips, -⟩, -⟩
        rw [hlookup] at hips
        cases hips
      | some ips =>
        dsimp only
        have hpasses : Passes resolver (String.ofList host) ↔ ips ≠ [] ∧ ∀ ip ∈ ips, ¬isUnsafeAddress ip := by
          unfold Passes
          rw [hlookup]
          simp [hblank]
        by_cases hempty : ips = []
        · simp only [hempty, if_true, reduceCtorEq, false_iff, not_exists]
          rintro host' port' ⟨⟨rfl, rfl⟩, h, -⟩
          exact (hpasses.mp h).1 hempty
        · rw [if_neg hempty]
          cases hfind : ips.find? (fun ip => isUnsafeAddress ip) with
          | some found =>
            simp only [reduceCtorEq, false_iff, not_exists]
            rintro host' port' ⟨⟨rfl, rfl⟩, h, -⟩
            have hunsafe := List.find?_some hfind
            exact (hpasses.mp h).2 found (List.mem_of_find?_eq_some hfind) hunsafe
          | none =>
            have hsafe : Passes resolver (String.ofList host) :=
              hpasses.mpr ⟨hempty, fun ip hip => List.find?_eq_none.mp hfind ip hip⟩
            dsimp only
            rw [dialContext_joinHostPort hplain]
            constructor
            · intro h
              exact ⟨host, port, ⟨rfl, rfl⟩, hsafe, h⟩
            · rintro ⟨host', port', ⟨rfl, rfl⟩, -, h⟩
              exact h

/-- A dialer that reaches this address wherever it is among those looked up. -/
def Dialer.reaching (ip : IP) : Dialer where
  connect addrs := if ip ∈ addrs then some ip else none
  connect_mem addrs reached h := by
    by_cases hip : ip ∈ addrs
    · rw [if_pos hip] at h
      cases h
      exact hip
    · rw [if_neg hip] at h
      cases h

/-- The connection is safe whatever the dialer reaches exactly when the second lookup repeats
the safety of the first. -/
theorem neverUnsafe_iff (hprivate : cfg.allowPrivateNetworks = false) :
    NeverUnsafe cfg resolver address ↔ SecondLookupSafe resolver address := by
  constructor
  · intro h host port hsplit hpasses ips hips ip hip
    refine h (Dialer.reaching ip) ip ((safeDialContext_eq_ok hprivate _ _).mpr ⟨host, port, hsplit, hpasses, ips, hips, ?_⟩)
    exact if_pos hip
  · intro h dialer ip hok
    obtain ⟨host, port, hsplit, hpasses, ips, hips, hconnect⟩ := (safeDialContext_eq_ok hprivate _ _).mp hok
    exact h host port hsplit hpasses ips hips ip (dialer.connect_mem ips ip hconnect)

/-- An address literal is checked and dialed as itself. -/
theorem neverUnsafe_literal (hprivate : cfg.allowPrivateNetworks = false) {host port : List Char} {ip : IP}
    (hsplit : splitHostPort address.toList = .ok (host, port)) (hip : resolver.parseIP (String.ofList host) = some ip) :
    NeverUnsafe cfg resolver address := by
  refine (neverUnsafe_iff hprivate).mpr fun host' port' hsplit' hpasses ips hips => ?_
  rw [hsplit] at hsplit'
  cases hsplit'
  have hlookup : ∀ n, resolver.lookupIPAddr n (String.ofList host) = some [ip] := by
    intro n
    unfold Resolver.lookupIPAddr
    rw [hip]
  obtain ⟨-, checked, hchecked, -, hsafe⟩ := hpasses
  rw [hlookup] at hips hchecked
  cases hips
  cases hchecked
  exact hsafe

end Dial

namespace Sample

/-- A name that resolves to a public address first and to the loopback address then. -/
def rebinding : Resolver where
  parseIP _ := none
  answers n := some [if n = 0 then [8, 8, 8, 8] else [127, 0, 0, 1]]

/-- A name that keeps its address. -/
def steady : Resolver where
  parseIP _ := none
  answers _ := some [[8, 8, 8, 8]]

end Sample

theorem neverUnsafe_steady : NeverUnsafe {} Sample.steady "erg.vn:443" ↔ SecondLookupSafe Sample.steady "erg.vn:443" :=
  neverUnsafe_iff rfl

/-- The check sees the public address, and the dialer connects to the loopback address. -/
theorem rebinding_reaches_loopback : safeDialContext {} Sample.rebinding (Dialer.reaching [127, 0, 0, 1]) "erg.vn:443" =
    .ok [127, 0, 0, 1] ∧ ¬NeverUnsafe {} Sample.rebinding "erg.vn:443" := by
  have hreached : safeDialContext {} Sample.rebinding (Dialer.reaching [127, 0, 0, 1]) "erg.vn:443" =
      .ok [127, 0, 0, 1] := by decide
  exact ⟨hreached, fun h => h _ _ hreached (by decide)⟩

end ErgGo.HTTPClient
