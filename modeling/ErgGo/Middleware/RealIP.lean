import ErgGo.Lib.Encodings

/-!
# The IP of a client

Of a request that a trusted proxy has passed on, the first address of `X-Forwarded-For` counts as
the client's. The proxy appends the address that it has seen; what stands before it is the client's.
-/

namespace ErgGo.Middleware
open Go

/-- The part of `net` that is used here. -/
class NetLibrary where
  IP : Type
  IPNet : Type
  parseIP : Bytes → Option IP
  /-- `ip.String()`. -/
  text : IP → Bytes
  /-- `ip.To4() != nil`. -/
  isIPv4 : IP → Bool
  parseCIDR : Bytes → Option IPNet
  contains : IPNet → IP → Bool
  /-- The host of `net.SplitHostPort`. -/
  splitHostPort : Bytes → Option Bytes

open NetLibrary

/-- What `realIP` reads of a request; a header that is absent is empty. -/
structure ProxiedRequest where
  remoteAddr : Bytes
  forwardedFor : Bytes := []
  realIP : Bytes := []

section Proxies

variable [NetLibrary]

def parseTrustedProxyCIDRs (cidrs : List Bytes) : List IPNet :=
  cidrs.filterMap fun cidr =>
    let cidr := Bytes.trimSpace cidr
    if cidr = [] then none
    else
      let cidr := match parseIP cidr with
        | some ip => if isIPv4 ip then text ip ++ bytes "/32" else text ip ++ bytes "/128"
        | none => cidr
      parseCIDR cidr

def isTrustedProxy (ip : Option IP) (trustedProxies : List IPNet) : Bool :=
  match ip with
  | none => false
  | some ip => trustedProxies.any (contains · ip)

def remoteIP (remoteAddr : Bytes) : Option IP :=
  parseIP (Bytes.trimSpace ((splitHostPort remoteAddr).getD remoteAddr))

def validIP (candidate : Bytes) : Bytes := (parseIP (Bytes.trimSpace candidate)).elim [] text

def firstForwardedIP (header : Bytes) : Bytes := (((header.splitOn 0x2C).map validIP).find? (· ≠ [])).getD []

def realIP (req : ProxiedRequest) (trustedProxies : List IPNet) : Bytes :=
  let peerIP := remoteIP req.remoteAddr
  let direct := peerIP.elim [] text
  if isTrustedProxy peerIP trustedProxies then
    if firstForwardedIP req.forwardedFor ≠ [] then firstForwardedIP req.forwardedFor
    else if validIP req.realIP ≠ [] then validIP req.realIP
    else direct
  else direct

/-! ## What the client supplies -/

/-- The request as a proxy passes it on, behind the addresses that the client has supplied. -/
def ProxiedRequest.appended (req : ProxiedRequest) (supplied : Option Bytes) (addr : Bytes) : ProxiedRequest :=
  { req with forwardedFor := supplied.elim addr (· ++ bytes ", " ++ addr) }

def entries (supplied : Option Bytes) : List Bytes := supplied.elim [] (·.splitOn 0x2C)

/-- The first address of the list: one that the client has supplied, or the appended one if the
client has supplied none. -/
inductive LeadsWith (supplied : Option Bytes) (addr : Bytes) : Bytes → Prop
  | supplied {before after : List Bytes} {entry : Bytes} (hentries : entries supplied = before ++ entry :: after)
    (hbefore : ∀ e ∈ before, validIP e = []) (hvalid : validIP entry ≠ []) : LeadsWith supplied addr (validIP entry)
  | appended (hnone : ∀ e ∈ entries supplied, validIP e = []) : LeadsWith supplied addr (validIP addr)

omit [NetLibrary] in
lemma trimSpace_blank (s : Bytes) : Bytes.trimSpace (0x20 :: s) = Bytes.trimSpace s := by
  have hfirst : spaces.find? (·.isPrefixOf (0x20 :: s)) = some [0x20] := by
    simp [spaces, List.isPrefixOf]
  have hstrip : Bytes.strip spaces (0x20 :: s) = Bytes.strip spaces s := by
    rw [Bytes.strip, List.length_cons, Bytes.stripWithin, hfirst]
    rfl
  rw [Bytes.trimSpace, Bytes.trimSpace, hstrip]

section Lead

variable {supplied : Option Bytes} {addr ip : Bytes} {trustedProxies : List IPNet} (req : ProxiedRequest)

lemma exists_leadsWith (supplied : Option Bytes) (addr : Bytes) : ∃ ip, LeadsWith supplied addr ip := by
  cases hfound : (entries supplied).find? (validIP · ≠ []) with
  | none => exact ⟨_, .appended (by simpa using hfound)⟩
  | some entry =>
    obtain ⟨hvalid, before, after, hentries, hbefore⟩ := List.find?_eq_some_iff_append.mp hfound
    exact ⟨_, .supplied hentries (by simpa using hbefore) (by simpa using hvalid)⟩

/-- The entries of the header are those that the client has supplied and the appended one. -/
lemma entries_appended (hcomma : 0x2C ∉ addr) : (((req.appended supplied addr).forwardedFor.splitOn 0x2C).map validIP) =
    (entries supplied).map validIP ++ [validIP addr] := by
  cases supplied with
  | none =>
    change (addr.splitOn 0x2C).map validIP = _
    rw [List.splitOn_eq_singleton hcomma]
    rfl
  | some list =>
    have hblank : 0x2C ∉ 0x20 :: addr := by
      rw [List.mem_cons, not_or]
      exact ⟨by decide, hcomma⟩
    have hheader : (req.appended (some list) addr).forwardedFor = list ++ 0x2C :: (0x20 :: addr) := by
      have hseparator : bytes ", " = [0x2C, 0x20] := by decide
      change list ++ bytes ", " ++ addr = _
      rw [hseparator, List.append_assoc]
      rfl
    have hvalid : validIP (0x20 :: addr) = validIP addr := by rw [validIP, validIP, trimSpace_blank]
    rw [hheader, List.splitOn_append_cons_self, List.splitOn_eq_singleton hblank, List.map_append, List.map_singleton,
      hvalid]
    rfl

lemma firstForwardedIP_of_leadsWith (hcomma : 0x2C ∉ addr) (haddr : validIP addr ≠ []) (h : LeadsWith supplied addr ip) :
    firstForwardedIP (req.appended supplied addr).forwardedFor = ip ∧ ip ≠ [] := by
  have hskip {l : List Bytes} (hl : ∀ e ∈ l, validIP e = []) : (l.map validIP).find? (· ≠ []) = none := by
    simpa [List.find?_eq_none] using hl
  rw [firstForwardedIP, entries_appended req hcomma, List.find?_append]
  cases h with
  | supplied hentries hbefore hvalid =>
    rw [hentries, List.map_append, List.map_cons, List.find?_append, hskip hbefore,
      List.find?_cons_of_pos (by simpa using hvalid)]
    exact ⟨rfl, hvalid⟩
  | appended hnone =>
    rw [hskip hnone, List.find?_cons_of_pos (by simpa using haddr)]
    exact ⟨rfl, haddr⟩

/-- The client's IP is the first address of the list. -/
lemma realIP_of_leadsWith (htrusted : isTrustedProxy (remoteIP req.remoteAddr) trustedProxies) (hcomma : 0x2C ∉ addr)
    (haddr : validIP addr ≠ []) (h : LeadsWith supplied addr ip) :
    realIP (req.appended supplied addr) trustedProxies = ip := by
  obtain ⟨hfirst, hne⟩ := firstForwardedIP_of_leadsWith req hcomma haddr h
  have hpeer : isTrustedProxy (remoteIP (req.appended supplied addr).remoteAddr) trustedProxies = true := htrusted
  rw [realIP, if_pos hpeer, hfirst, if_pos hne]

/-- A client has the IP that it says it has. -/
lemma realIP_chosen (htrusted : isTrustedProxy (remoteIP req.remoteAddr) trustedProxies) (hcomma : 0x2C ∉ addr)
    (haddr : validIP addr ≠ []) {chosen : Bytes} (hchosen : 0x2C ∉ chosen) (hvalid : validIP chosen ≠ []) :
    realIP (req.appended (some chosen) addr) trustedProxies = validIP chosen :=
  have hentries : chosen.splitOn 0x2C = [] ++ chosen :: [] := List.splitOn_eq_singleton hchosen
  realIP_of_leadsWith req htrusted hcomma haddr (.supplied hentries (fun _ h => absurd h List.not_mem_nil) hvalid)

end Lead

/-- Two requests that differ in what the client supplies have one IP if and only if both lists lead
with it. -/
theorem realIP_same_iff (cidrs : List Bytes) (req : ProxiedRequest) {addr : Bytes}
    (htrusted : isTrustedProxy (remoteIP req.remoteAddr) (parseTrustedProxyCIDRs cidrs)) (hcomma : 0x2C ∉ addr)
    (haddr : validIP addr ≠ []) (supplied supplied' : Option Bytes) :
    realIP (req.appended supplied addr) (parseTrustedProxyCIDRs cidrs) =
        realIP (req.appended supplied' addr) (parseTrustedProxyCIDRs cidrs) ↔
      ∃ ip, LeadsWith supplied addr ip ∧ LeadsWith supplied' addr ip := by
  constructor
  · intro hsame
    obtain ⟨ip, hlead⟩ := exists_leadsWith supplied addr
    obtain ⟨ip', hlead'⟩ := exists_leadsWith supplied' addr
    rw [realIP_of_leadsWith req htrusted hcomma haddr hlead, realIP_of_leadsWith req htrusted hcomma haddr hlead'] at hsame
    exact ⟨ip, hlead, hsame ▸ hlead'⟩
  · rintro ⟨ip, hlead, hlead'⟩
    rw [realIP_of_leadsWith req htrusted hcomma haddr hlead, realIP_of_leadsWith req htrusted hcomma haddr hlead']

end Proxies

/-! ## A load balancer -/

namespace RealIPSamples

/-- The number of a dotted quad. -/
def quad (s : Bytes) : Option ℕ :=
  match (s.splitOn 0x2E).mapM (Decimal.parse 8) with
  | some [a, b, c, d] => some (((a * 256 + b) * 256 + c) * 256 + d)
  | _ => none

/-- Addresses of IPv4, which are their own texts. -/
@[reducible] def ipv4 : NetLibrary where
  IP := Bytes × ℕ
  IPNet := ℕ × ℕ
  parseIP s := (quad s).map fun n => (s, n)
  text ip := ip.1
  isIPv4 _ := true
  parseCIDR s := (Bytes.cut 0x2F s).bind fun (ip, bits) => (quad ip).bind fun n =>
    (Decimal.parse 6 bits).map fun bits => (n >>> (32 - bits), bits)
  contains net ip := ip.2 >>> (32 - net.2) = net.1
  splitHostPort s := (Bytes.cut 0x3A s).map Prod.fst

def balanced : ProxiedRequest := { remoteAddr := bytes "10.1.2.3:4567" }

end RealIPSamples

open RealIPSamples in
/-- What is no address does not matter. -/
theorem realIP_same_junk :
    let cidrs := [bytes "10.0.0.0/8"]
    let client := bytes "203.0.113.7"
    (@realIP ipv4 (balanced.appended none client) (@parseTrustedProxyCIDRs ipv4 cidrs)) =
      @realIP ipv4 (balanced.appended (some (bytes "unknown, localhost")) client) (@parseTrustedProxyCIDRs ipv4 cidrs) := by
  let _ := ipv4
  refine (realIP_same_iff [bytes "10.0.0.0/8"] balanced (by decide) (by decide) (by decide) _ _).mpr
    ⟨validIP (bytes "203.0.113.7"), .appended (fun _ h => absurd h List.not_mem_nil), .appended ?_⟩
  have hentries : entries (some (bytes "unknown, localhost")) = [bytes "unknown", bytes " localhost"] := by decide
  rw [hentries]
  decide

open RealIPSamples in
/-- One client behind the balancer is another client on each request. -/
theorem realIP_of_one_client :
    let cidrs := [bytes "10.0.0.0/8"]
    let client := bytes "203.0.113.7"
    @isTrustedProxy ipv4 (@remoteIP ipv4 balanced.remoteAddr) (@parseTrustedProxyCIDRs ipv4 cidrs) = true ∧
    @realIP ipv4 (balanced.appended (some (bytes "198.51.100.1")) client) (@parseTrustedProxyCIDRs ipv4 cidrs) =
      bytes "198.51.100.1" ∧
    @realIP ipv4 (balanced.appended (some (bytes "198.51.100.2")) client) (@parseTrustedProxyCIDRs ipv4 cidrs) =
      bytes "198.51.100.2" ∧
    bytes "198.51.100.1" ≠ bytes "198.51.100.2" := by
  refine ⟨by decide, by decide, by decide, by decide⟩

end ErgGo.Middleware
