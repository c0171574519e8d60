import ATV2Utils.Addresses

/-! # What the address queries promise, and when they keep it

Over every interface list. `getIPAddress` reads the flow label of an IPv6 entry
as an address, `whatismyipdotcom2` falls back on the text it has just rejected,
the menu's address walk keeps the last alias where `localWiFiIPAddress` takes
the first, and the menu's port name is whatever the list ends with. For each the
exact lists on which the result is still the intended one are given. -/
namespace ATV2Utils.AddressSoundness
open ATV2Utils.Interfaces ATV2Utils.Addresses ATV2Utils.Lib.Scan ATV2Utils.Lib.Preference

/-- `s` is the dotted address of an IPv4 entry of the interface `name`. -/
def HasAddress (l : List Ifaddrs) (name s : String) : Prop :=
  ∃ e ∈ l, isIPv4 name e = true ∧ addressText e = s

theorem not_hasAddress {l : List Ifaddrs} {name : String}
    (h : lastMatch (isIPv4 name) l = none) (s : String) : ¬ HasAddress l name s := by
  rintro ⟨e, he, hv, _⟩
  rw [lastMatch_eq_none_iff.mp h e he] at hv
  cases hv

theorem hasAddress_lastMatch {l : List Ifaddrs} {name : String} {e : Ifaddrs}
    (h : lastMatch (isIPv4 name) l = some e) : HasAddress l name (addressText e) := by
  obtain ⟨he, hv⟩ := lastMatch_some h
  exact ⟨e, he, hv, rfl⟩

/-! ## `getIPAddress` -/

/-- The entry whose four bytes `getIPAddress` shows. -/
def decidingEntry (l : List Ifaddrs) : Option Ifaddrs :=
  (lastMatch (admitted "en0") l).or (lastMatch (admitted "pdp_ip0") l)

/-- The four bytes an entry is read for; no entry stands for 0.0.0.0. -/
def readAddress (e : Option Ifaddrs) : InAddr := (e.map fun e => e.ifaAddr.sinAddr).getD InAddr.any

def withoutIPv6 (l : List Ifaddrs) : List Ifaddrs := l.filter fun e => e.family != AF_INET6

theorem getIPAddress_eq (l : List Ifaddrs) :
    getIPAddress (some l) = inetNtoa (readAddress (decidingEntry l)) := by
  simp only [getIPAddress, getIPAddress_walk, decidingEntry, readAddress]
  cases lastMatch (admitted "en0") l with
  | some e => rfl
  | none =>
    cases lastMatch (admitted "pdp_ip0") l with
    | some e => rfl
    | none => exact inetNtoa_any.symm

theorem admitted_of_isIPv4 {name : String} {e : Ifaddrs} (h : isIPv4 name e = true) :
    admitted name e = true := by
  simp only [isIPv4, decide_eq_true_eq] at h
  simp [admitted, h.1, h.2]

theorem isIPv4_of_admitted {name : String} {e : Ifaddrs} (h : admitted name e = true)
    (hf : e.family ≠ AF_INET6) : isIPv4 name e = true := by
  simp only [admitted, decide_eq_true_eq] at h
  obtain ⟨hfam, hn⟩ := h
  have h4 : e.family = AF_INET := hfam.resolve_right hf
  simp [isIPv4, h4, hn]

theorem lastMatch_withoutIPv6 (name : String) (l : List Ifaddrs) :
    lastMatch (admitted name) (withoutIPv6 l) = lastMatch (isIPv4 name) l := by
  unfold lastMatch withoutIPv6
  rw [List.filter_filter]
  refine congrArg List.getLast? (List.filter_congr fun e _ => ?_)
  by_cases h6 : e.family = AF_INET6
  · simp [isIPv4, h6, show AF_INET6 ≠ AF_INET by decide]
  · simp [admitted, isIPv4, h6]

theorem decidingEntry_withoutIPv6 (l : List Ifaddrs) :
    decidingEntry (withoutIPv6 l) =
      (lastMatch (isIPv4 "en0") l).or (lastMatch (isIPv4 "pdp_ip0") l) := by
  rw [decidingEntry, lastMatch_withoutIPv6, lastMatch_withoutIPv6]

/-- Without IPv6 entries the query answers by preference. -/
theorem getIPAddress_withoutIPv6 (l : List Ifaddrs) :
    Preferred (HasAddress l) "0.0.0.0" ["en0", "pdp_ip0"]
      (getIPAddress (some (withoutIPv6 l))) := by
  rw [getIPAddress_eq, decidingEntry_withoutIPv6]
  cases hw : lastMatch (isIPv4 "en0") l with
  | some e => exact preferred_head (hasAddress_lastMatch hw)
  | none =>
    rw [preferred_skip (not_hasAddress hw)]
    cases hc : lastMatch (isIPv4 "pdp_ip0") l with
    | some e => exact preferred_head (hasAddress_lastMatch hc)
    | none =>
      rw [preferred_skip (not_hasAddress hc), preferred_nil]
      exact inetNtoa_any

/-- A deciding entry that is no IPv6 entry decides without the IPv6 entries too. -/
theorem decidingEntry_of_not_IPv6 {l : List Ifaddrs} {d : Ifaddrs}
    (h : decidingEntry l = some d) (hf : d.family ≠ AF_INET6) :
    decidingEntry (withoutIPv6 l) = some d := by
  rw [decidingEntry_withoutIPv6]
  unfold decidingEntry at h
  cases hw : lastMatch (admitted "en0") l with
  | some w =>
    have hd : w = d := by simpa [hw] using h
    subst hd
    have hv := isIPv4_of_admitted (lastMatch_some hw).2 hf
    rw [lastMatch_of_imp (fun e _ => admitted_of_isIPv4) hw hv]
    rfl
  | none =>
    have hc : lastMatch (admitted "pdp_ip0") l = some d := by simpa [hw] using h
    have hv := isIPv4_of_admitted (lastMatch_some hc).2 hf
    have hnone : lastMatch (isIPv4 "en0") l = none := by
      rw [lastMatch_eq_none_iff] at hw ⊢
      intro e he
      have := hw e he
      cases hq : isIPv4 "en0" e with
      | false => rfl
      | true => rw [admitted_of_isIPv4 hq] at this; cases this
    rw [hnone, lastMatch_of_imp (fun e _ => admitted_of_isIPv4) hc hv]
    rfl

/-- What `getIPAddress` is for: the address of `en0`, else of `pdp_ip0`, else
0.0.0.0, whatever IPv6 entries the list has. -/
structure AnswersFromIPv4 (l : List Ifaddrs) : Prop where
  preferred : Preferred (HasAddress l) "0.0.0.0" ["en0", "pdp_ip0"] (getIPAddress (some l))
  unaffected : getIPAddress (some l) = getIPAddress (some (withoutIPv6 l))

/-- **When `getIPAddress` answers from the IPv4 entries.** Exactly when the
deciding entry is no IPv6 entry, or its flow label happens to spell the address
that decides without the IPv6 entries. -/
theorem getIPAddress_iff (l : List Ifaddrs) :
    AnswersFromIPv4 l ↔ ∀ d, decidingEntry l = some d → d.family = AF_INET6 →
      d.ifaAddr.sinAddr = readAddress (decidingEntry (withoutIPv6 l)) := by
  constructor
  · rintro ⟨_, hun⟩ d hd _
    rw [getIPAddress_eq, getIPAddress_eq, inetNtoa_inj, hd] at hun
    exact hun
  · intro h
    have hun : getIPAddress (some l) = getIPAddress (some (withoutIPv6 l)) := by
      rw [getIPAddress_eq, getIPAddress_eq, inetNtoa_inj]
      cases hd : decidingEntry l with
      | some d =>
        by_cases hf : d.family = AF_INET6
        · exact h d hd hf
        · rw [decidingEntry_of_not_IPv6 hd hf]
      | none =>
        -- no admitted entry at all, so none is left when the IPv6 ones go
        obtain ⟨hw, hc⟩ := Option.or_eq_none_iff.mp hd
        have hsub : ∀ name, lastMatch (admitted name) l = none →
            lastMatch (admitted name) (withoutIPv6 l) = none := by
          intro name hn
          rw [lastMatch_eq_none_iff] at hn ⊢
          exact fun e he => hn e (List.mem_filter.mp he).1
        rw [decidingEntry, hsub _ hw, hsub _ hc]
        rfl
    exact ⟨hun ▸ getIPAddress_withoutIPv6 l, hun⟩

/-- An IPv6 entry after the IPv4 one of the same interface, flow label zero. -/
def dualStackEn0 : List Ifaddrs :=
  [⟨"en0", 0x8863, ⟨16, AF_INET, [0, 0, 192, 168, 1, 5], by decide⟩, 0⟩,
    ⟨"en0", 0x8863, ⟨28, AF_INET6, [0, 0, 0, 0, 0, 0, 0xfe, 0x80], by decide⟩, 0⟩]

theorem getIPAddress_dualStack :
    getIPAddress (some dualStackEn0) = "0.0.0.0" ∧ ¬ AnswersFromIPv4 dualStackEn0 := by
  refine ⟨by decide, fun h => ?_⟩
  have hun := h.unaffected
  revert hun
  decide

/-! ## `whatismyipdotcom2` -/

theorem acceptsReply_addressText (e : Ifaddrs) : acceptsReply (some (addressText e)) = true := by
  have hc := inetNtoa_components e.ifaAddr.sinAddr
  have hne : addressText e ≠ "" := inetNtoa_ne_of_dotless (by decide) _
  simp only [acceptsReply, decide_eq_true_eq]
  refine ⟨fun h => hne (String.length_eq_zero_iff.mp h), ?_⟩
  rw [show addressText e = inetNtoa e.ifaAddr.sinAddr from rfl, hc]
  simp [InAddr.octets]

/-- The address of `en0` the interface list gives. -/
def interfaceAnswer (interfaces : Getifaddrs) : Option String :=
  (lastMatch (isIPv4 "en0") (interfaces.getD [])).map addressText

/-- A rejected reply stands behind the interface list instead of going. -/
theorem whatismyipdotcom2_eq (reply : Option String) (interfaces : Getifaddrs) :
    whatismyipdotcom2 reply interfaces =
      if acceptsReply reply then reply else (interfaceAnswer interfaces).or reply := by
  unfold whatismyipdotcom2 interfaceAnswer
  split
  · rfl
  · cases interfaces with
    | none => rfl
    | some l =>
      simp only [whatismyipdotcom2_walk, Option.getD_some]
      cases lastMatch (isIPv4 "en0") l <;> rfl

theorem interfaceAnswer_accepted {interfaces : Getifaddrs} {s : String}
    (h : interfaceAnswer interfaces = some s) : acceptsReply (some s) = true := by
  obtain ⟨e, _, rfl⟩ := Option.map_eq_some_iff.mp h
  exact acceptsReply_addressText e

theorem interfaceAnswer_isSome_iff (interfaces : Getifaddrs) :
    (interfaceAnswer interfaces).isSome ↔
      ∃ l, interfaces = some l ∧ ∃ e ∈ l, e.family = AF_INET ∧ e.ifaName = "en0" := by
  simp only [interfaceAnswer, Option.isSome_map, lastMatch_isSome_iff, isIPv4, decide_eq_true_eq]
  cases interfaces <;> simp

theorem interfaceAnswer_preferred (interfaces : Getifaddrs) :
    Preferred (fun name r => ∃ s, HasAddress (interfaces.getD []) name s ∧ r = some s) none
      ["en0"] (interfaceAnswer interfaces) := by
  unfold interfaceAnswer
  cases h : lastMatch (isIPv4 "en0") (interfaces.getD []) with
  | some e => exact preferred_head ⟨_, hasAddress_lastMatch h, rfl⟩
  | none =>
    rw [preferred_skip (fun r ⟨s, hs, _⟩ => not_hasAddress h s hs), preferred_nil]
    rfl

/-- What the query is for: it hands out only text that passes its own check,
and a rejected reply leaves the answer to the interface list alone. -/
structure HandsOutChecked (reply : Option String) (interfaces : Getifaddrs) : Prop where
  checked : ∀ s, whatismyipdotcom2 reply interfaces = some s → acceptsReply (some s) = true
  independent : acceptsReply reply = false →
    whatismyipdotcom2 reply interfaces = whatismyipdotcom2 none interfaces
  fallback : acceptsReply reply = false →
    Preferred (fun name r => ∃ s, HasAddress (interfaces.getD []) name s ∧ r = some s) none
      ["en0"] (whatismyipdotcom2 reply interfaces)

/-- **When `whatismyipdotcom2` hands out checked text only.** Exactly when the
reply is nil or passes the check, or the list has an IPv4 entry of `en0`. -/
theorem whatismyipdotcom2_iff (reply : Option String) (interfaces : Getifaddrs) :
    HandsOutChecked reply interfaces ↔
      reply = none ∨ acceptsReply reply = true ∨
        ∃ l, interfaces = some l ∧ ∃ e ∈ l, e.family = AF_INET ∧ e.ifaName = "en0" := by
  rw [← interfaceAnswer_isSome_iff]
  constructor
  · rintro ⟨hchecked, _, _⟩
    cases reply with
    | none => exact Or.inl rfl
    | some r =>
      refine Or.inr ?_
      cases hi : interfaceAnswer interfaces with
      | some s => exact Or.inr rfl
      | none =>
        -- the reply itself is handed out, so it has passed the check
        refine Or.inl (hchecked r ?_)
        rw [whatismyipdotcom2_eq, hi]
        split <;> rfl
  · intro h
    -- a rejected reply leaves exactly the interface list's answer
    have hrej : acceptsReply reply = false →
        whatismyipdotcom2 reply interfaces = interfaceAnswer interfaces := by
      intro ha
      rw [whatismyipdotcom2_eq, ha]
      rcases h with rfl | hacc | hsome
      · simp
      · rw [ha] at hacc; cases hacc
      · obtain ⟨s, hs⟩ := Option.isSome_iff_exists.mp hsome
        simp [hs]
    have hnil : whatismyipdotcom2 none interfaces = interfaceAnswer interfaces := by
      rw [whatismyipdotcom2_eq]
      simp [acceptsReply]
    refine ⟨fun s hs => ?_, fun ha => (hrej ha).trans hnil.symm,
      fun ha => hrej ha ▸ interfaceAnswer_preferred interfaces⟩
    cases ha : acceptsReply reply with
    | true =>
      rw [whatismyipdotcom2_eq, if_pos ha] at hs
      rw [← hs]; exact ha
    | false => exact interfaceAnswer_accepted ((hrej ha).symm.trans hs)

/-- An error page, and no interface list to fall back on. -/
theorem whatismyipdotcom2_errorPage :
    whatismyipdotcom2 (some "not found") none = some "not found" ∧
      ¬ HandsOutChecked (some "not found") none := by
  have hout : whatismyipdotcom2 (some "not found") none = some "not found" := by decide
  refine ⟨hout, fun h => ?_⟩
  exact absurd (h.checked _ hout) (by decide)

/-! ## The menu's address row and `localWiFiIPAddress` -/

/-- The row and the query agree: "error" stands for no answer, and any answer is shown. -/
structure SearchesAgree (addrs : Getifaddrs) : Prop where
  error : menuAddress addrs = "error" ↔ localWiFiIPAddress addrs = none
  activeWLAN : localWiFiIPAddress addrs = none ↔ activeWLAN addrs = false
  same : ∀ s, localWiFiIPAddress addrs = some s → menuAddress addrs = s

/-- No entry of `en1` is flagged loopback. -/
def NoLoopbackWiFi (addrs : Getifaddrs) : Prop :=
  ∀ e ∈ addrs.getD [], e.ifaName = "en1" → e.ifaFlags &&& IFF_LOOPBACK = 0

instance (addrs : Getifaddrs) : Decidable (NoLoopbackWiFi addrs) :=
  inferInstanceAs (Decidable (∀ e ∈ addrs.getD [], _))

theorem localWiFiIPAddress_eq {addrs : Getifaddrs} (h : NoLoopbackWiFi addrs) :
    localWiFiIPAddress addrs = ((addrs.getD []).find? (isIPv4 "en1")).map addressText := by
  cases addrs with
  | none => rfl
  | some l => exact localWiFiWalk_eq l h

/-- An address is never the text that stands for none. -/
theorem localWiFiIPAddress_ne_error {addrs : Getifaddrs} (h : NoLoopbackWiFi addrs) {s : String}
    (hs : localWiFiIPAddress addrs = some s) : s ≠ "error" := by
  rw [localWiFiIPAddress_eq h] at hs
  obtain ⟨e, -, rfl⟩ := Option.map_eq_some_iff.mp hs
  exact inetNtoa_ne_of_dotless (by decide) _

theorem menuAddress_eq (addrs : Getifaddrs) :
    menuAddress addrs =
      ((lastMatch (isIPv4 "en1") (addrs.getD [])).map addressText).getD "error" := by
  cases addrs with
  | none => rfl
  | some l => exact menuAddress_walk l

theorem activeWLAN_eq_false_iff (addrs : Getifaddrs) :
    localWiFiIPAddress addrs = none ↔ activeWLAN addrs = false := by
  simp [activeWLAN]

/-- **When the two searches for the Wi-Fi address agree.** Exactly when the
IPv4 entries of `en1`, if any, begin and end with the same address. -/
theorem searches_agree_iff (addrs : Getifaddrs) (hloop : NoLoopbackWiFi addrs) :
    SearchesAgree addrs ↔
      ∀ first last, (addrs.getD []).find? (isIPv4 "en1") = some first →
        lastMatch (isIPv4 "en1") (addrs.getD []) = some last →
        first.ifaAddr.sinAddr = last.ifaAddr.sinAddr := by
  have hfirst := localWiFiIPAddress_eq hloop
  have hlast := menuAddress_eq addrs
  constructor
  · rintro ⟨_, _, hsame⟩ first last hf hl
    simp only [hf, Option.map_some] at hfirst
    simp only [hl, Option.map_some, Option.getD_some] at hlast
    exact (inetNtoa_injective (hlast.symm.trans (hsame _ hfirst))).symm
  · intro h
    have hwlan := activeWLAN_eq_false_iff addrs
    have hboth := find?_isSome_iff_lastMatch (isIPv4 "en1") (addrs.getD [])
    cases hl : lastMatch (isIPv4 "en1") (addrs.getD []) with
    | none =>
      rw [hl, Option.isSome_none, Option.isSome_eq_false_iff, Option.isNone_iff_eq_none] at hboth
      rw [hboth] at hfirst
      rw [hl] at hlast
      exact ⟨⟨fun _ => hfirst, fun _ => hlast⟩, hwlan, fun s hs => by rw [hfirst] at hs; cases hs⟩
    | some last =>
      rw [hl, Option.isSome_some] at hboth
      obtain ⟨first, hf⟩ := Option.isSome_iff_exists.mp hboth
      simp only [hf, Option.map_some] at hfirst
      simp only [hl, Option.map_some, Option.getD_some] at hlast
      have htext : menuAddress addrs = addressText first := by
        rw [hlast]; exact congrArg inetNtoa (h first last hf hl).symm
      refine ⟨⟨fun he => ?_, fun hn => ?_⟩, hwlan, fun s hs => ?_⟩
      · exact absurd (htext.symm.trans he) (inetNtoa_ne_of_dotless (by decide) _)
      · rw [hfirst] at hn; cases hn
      · rw [hfirst] at hs
        rw [htext]; exact Option.some.inj hs

/-- An alias behind the address of `en1`. -/
def aliasedEn1 : List Ifaddrs :=
  [⟨"en1", 0x8863, ⟨16, AF_INET, [0, 0, 192, 168, 1, 5], by decide⟩, 0⟩,
    ⟨"en1", 0x8863, ⟨16, AF_INET, [0, 0, 10, 0, 0, 5], by decide⟩, 0⟩]

/-- Two entries of `en1` with one address, other entries before and between. -/
def repeatedEn1 : List Ifaddrs :=
  [⟨"lo0", 0x8049, ⟨16, AF_INET, [0, 0, 127, 0, 0, 1], by decide⟩, 0⟩,
    ⟨"en1", 0x8863, ⟨16, AF_INET, [0, 0, 192, 168, 1, 5], by decide⟩, 0⟩,
    ⟨"en0", 0x8863, ⟨16, AF_INET, [0, 0, 10, 0, 0, 5], by decide⟩, 0⟩,
    ⟨"en1", 0x8863, ⟨28, AF_INET6, [0, 0, 0, 0, 0, 0, 0xfe, 0x80], by decide⟩, 0⟩,
    ⟨"en1", 0x8863, ⟨16, AF_INET, [0, 0, 192, 168, 1, 5], by decide⟩, 0⟩]

theorem searches_agree_repeated : SearchesAgree (some repeatedEn1) :=
  (searches_agree_iff (some repeatedEn1) (by decide)).mpr (by
    intro first last hf hl
    have hfirst : (repeatedEn1.find? (isIPv4 "en1")).map (fun e => e.ifaAddr.sinAddr) =
      some ⟨192, 168, 1, 5⟩ := by decide
    have hlast : (lastMatch (isIPv4 "en1") repeatedEn1).map (fun e => e.ifaAddr.sinAddr) =
      some ⟨192, 168, 1, 5⟩ := by decide
    rw [show repeatedEn1.find? (isIPv4 "en1") = some first from hf] at hfirst
    rw [show lastMatch (isIPv4 "en1") repeatedEn1 = some last from hl] at hlast
    exact (Option.some.inj hfirst).trans (Option.some.inj hlast).symm)

theorem searches_disagree_aliased :
    localWiFiIPAddress (some aliasedEn1) = some "192.168.1.5" ∧
      menuAddress (some aliasedEn1) = "10.0.0.5" ∧ NoLoopbackWiFi (some aliasedEn1) ∧
      ¬ SearchesAgree (some aliasedEn1) := by
  refine ⟨by decide, by decide, by decide, fun h => ?_⟩
  exact absurd (h.same "192.168.1.5" (by decide)) (by decide)

/-! ## The LAN port row -/

/-- An `AF_LINK` entry of an interface whose name starts with `en`. -/
def IsEthernetLink (e : Ifaddrs) : Prop := e.family = AF_LINK ∧ hasPrefix e.ifaName "en" = true

/-- The row names one of the Ethernet links of the list. -/
def NamesEthernetLink (l : List Ifaddrs) : Prop :=
  ∃ e ∈ l, IsEthernetLink e ∧ lanPortName (some l) = e.ifaName

/-- **When the LAN port row names an Ethernet link.** Exactly when the list ends
with an entry, of whatever family, that bears the name of one. -/
theorem lanPort_iff (l : List Ifaddrs) (h : ∃ e ∈ l, IsEthernetLink e) :
    NamesEthernetLink l ↔
      ∃ last, l.getLast? = some last ∧ ∃ e ∈ l, IsEthernetLink e ∧ last.ifaName = e.ifaName := by
  obtain ⟨link, hlink, _⟩ := h
  obtain ⟨last, hlast⟩ : ∃ last, l.getLast? = some last :=
    Option.isSome_iff_exists.mp (List.getLast?_isSome.mpr (List.ne_nil_of_mem hlink))
  have hname : lanPortName (some l) = last.ifaName := by
    rw [lanPortName_walk, hlast]; rfl
  constructor
  · rintro ⟨e, he, hl, hn⟩
    exact ⟨last, hlast, e, he, hl, hname.symm.trans hn⟩
  · rintro ⟨last', hlast', e, he, hl, hn⟩
    have hsame : last = last' := Option.some.inj (hlast.symm.trans hlast')
    exact ⟨e, he, hl, hname.trans (hsame ▸ hn)⟩

/-- A link entry of `en0`, then the loopback interface. -/
def loopbackLast : List Ifaddrs :=
  [⟨"en0", 0x8863, ⟨20, AF_LINK, [], by decide⟩, 4096⟩,
    ⟨"lo0", 0x8049, ⟨16, AF_INET, [0, 0, 127, 0, 0, 1], by decide⟩, 0⟩]

/-- Links of three interfaces, then the addresses of two of them. -/
def ethernetLast : List Ifaddrs :=
  [⟨"lo0", 0x8049, ⟨20, AF_LINK, [], by decide⟩, 4096⟩,
    ⟨"pdp_ip0", 0x8011, ⟨20, AF_LINK, [], by decide⟩, 4096⟩,
    ⟨"en0", 0x8863, ⟨20, AF_LINK, [], by decide⟩, 4096⟩,
    ⟨"lo0", 0x8049, ⟨16, AF_INET, [0, 0, 127, 0, 0, 1], by decide⟩, 0⟩,
    ⟨"en0", 0x8863, ⟨16, AF_INET, [0, 0, 192, 168, 1, 5], by decide⟩, 0⟩]

theorem lanPort_ethernetLast : NamesEthernetLink ethernetLast := by
  have hlink : ∃ e ∈ ethernetLast, IsEthernetLink e ∧ "en0" = e.ifaName :=
    ⟨⟨"en0", 0x8863, ⟨20, AF_LINK, [], by decide⟩, 4096⟩, by simp [ethernetLast],
      ⟨by decide, by decide⟩, rfl⟩
  obtain ⟨link, hmem, hen, -⟩ := id hlink
  exact (lanPort_iff ethernetLast ⟨link, hmem, hen⟩).mpr ⟨_, rfl, hlink⟩

theorem lanPort_loopbackLast :
    lanPortName (some loopbackLast) = "lo0" ∧ (∃ e ∈ loopbackLast, IsEthernetLink e) ∧
      ¬ NamesEthernetLink loopbackLast := by
  refine ⟨by decide, ⟨_, List.mem_cons_self, by decide, by decide⟩, ?_⟩
  rintro ⟨e, he, ⟨hfam, _⟩, hn⟩
  rw [show lanPortName (some loopbackLast) = "lo0" by decide] at hn
  simp only [loopbackLast, List.mem_cons, List.not_mem_nil, or_false] at he
  rcases he with rfl | rfl
  · exact absurd hn (by decide)
  · exact absurd hfam (by decide)

end ATV2Utils.AddressSoundness
