import ATV2Utils.AddressSoundness
import ATV2Utils.Environment
import ATV2Utils.MenuList
import ATV2Utils.Reachability

/-! # The Network menu

`init` shows what the interface walks and the address queries found. Every walk
calls `getifaddrs` itself, so each has a list of its own. -/
namespace ATV2Utils.NetworkMainMenu
open ATV2Utils.Foundation ATV2Utils.MenuList ATV2Utils.Environment
open ATV2Utils.Interfaces ATV2Utils.Addresses ATV2Utils.AddressSoundness ATV2Utils.Reachability

inductive Datum where
  | notConnected
  | uptime | now | hostname | localHostName | ispName
  | lanPort | lanID | lanIDWifi | appleTVsIP | googlesIP
  | ispsIP | ispsIP2 | interfaceIP
deriving DecidableEq, Repr

/-- What the calls of `init` answer. -/
structure Answers where
  networkAvailable : Bool
  -- `error` is never assigned: whether it happens to be non-nil
  error : Bool
  nameList : Getifaddrs
  addressList : Getifaddrs
  dotcom2List : Getifaddrs
  ipAddressList : Getifaddrs
  uptimeATV2 : String
  startTimeAsFormattedDateTime : String
  hostname : String
  localHostName : Option String
  domainName : Option String
  macaddress : String
  macaddressW : String
  gethostbyname : String → Option Hostent
  webReply : Option String
  webError : Option String
  webReply2 : Option String

/-- `whatismyipdotcom`: the reply as it comes, or the error's description. -/
def whatismyipdotcom (ip localizedDescription : Option String) : Option String :=
  ip.or localizedDescription

def rows (a : Answers) : List (Row Datum) :=
  if !a.networkAvailable && a.error then
    [⟨.notConnected, "You are not connected to the network. " ++
      "Please do so before running this application."⟩]
  else
    [⟨.uptime, a.uptimeATV2⟩,
     ⟨.now, "Now\t\t\t: " ++ a.startTimeAsFormattedDateTime⟩,
     ⟨.hostname, "hostname\t: " ++ a.hostname⟩,
     ⟨.localHostName, "Local Host Name: " ++ printfObject a.localHostName⟩,
     ⟨.ispName, "ISP Name: " ++ printfObject a.domainName⟩,
     ⟨.lanPort, "LAN port\t: " ++ lanPortName a.nameList⟩,
     ⟨.lanID, "LAN-ID\t\t: " ++ a.macaddress⟩,
     ⟨.lanIDWifi, "LAN-ID Wifi : " ++ a.macaddressW⟩,
     ⟨.appleTVsIP, "AppleTV's IP: " ++ menuAddress a.addressList⟩,
     ⟨.googlesIP, "Google's IP\t: " ++
       printfObject (getIPAddressForHost a.gethostbyname "www.google.com")⟩,
     ⟨.ispsIP, "Your ISP's IP: " ++ printfObject (whatismyipdotcom a.webReply a.webError)⟩,
     ⟨.ispsIP2, "Your ISP's IP: " ++ printfObject (whatismyipdotcom2 a.webReply2 a.dotcom2List)⟩,
     ⟨.interfaceIP, "Your ISP's IP: " ++ getIPAddress a.ipAddressList⟩]

def init (a : Answers) : Menu Datum := ⟨rows a, []⟩

/-- The image number in the comment behind each `addObject:`. -/
def imageNumber : Datum → Option String
  | .notConnected => none
  | .uptime => some "207"
  | .now => some "208"
  | .hostname => some "200"
  | .localHostName => some "200"
  | .ispName => some "200"
  | .lanPort => some "201"
  | .lanID => some "202"
  | .lanIDWifi => some "203"
  | .appleTVsIP => some "204"
  | .googlesIP => some "205"
  | .ispsIP => some "206"
  | .ispsIP2 => some "206"
  | .interfaceIP => some "206"

def previewControlForItem (item : Long) : Option String :=
  match item.toInt with
  | 0 => some "207"
  | 1 => some "208"
  | 2 => some "200"
  | 3 => some "200"
  | 4 => some "201"
  | 5 => some "202"
  | 6 => some "203"
  | 7 => some "204"
  | 8 => some "205"
  | 9 => some "206"
  | _ => none

/-- The branches of `itemSelected:` are empty. -/
def itemSelected (names : List String) (selected : Long) : Except NSException Unit := do
  let _currentObject ← objectAtIndex names selected.toNat

def itemForRow : List String → Long → Except NSException (Option BRMenuItem) :=
  itemForRowWith smallItem

/-! ## The rows of the two walks -/

variable {a : Answers}

/-- The rows beyond the notice are made. -/
def Answers.Connected (a : Answers) : Prop := a.networkAvailable = true ∨ a.error = false

theorem shown_of_notConnected (h : ¬ a.Connected) (datum : Datum) (hd : datum ≠ .notConnected) :
    (init a).shown datum = [] := by
  obtain ⟨hn, he⟩ := not_or.mp h
  simp [Menu.shown, init, rows, Bool.eq_false_iff.mpr hn, Bool.eq_true_of_not_eq_false he, hd.symm]

theorem rows_of_connected (h : a.Connected) : (!a.networkAvailable && a.error) = false := by
  rcases h with h | h <;> simp [h]

theorem shown_lanPort (h : a.Connected) :
    (init a).shown .lanPort = ["LAN port\t: " ++ lanPortName a.nameList] := by
  simp [Menu.shown, init, rows, rows_of_connected h]

theorem shown_appleTVsIP (h : a.Connected) :
    (init a).shown .appleTVsIP = ["AppleTV's IP: " ++ menuAddress a.addressList] := by
  simp [Menu.shown, init, rows, rows_of_connected h]

/-- A row is a label and a value; the label is the same on both sides. -/
theorem label_inj {label s t : String} : [label ++ s] = [label ++ t] ↔ s = t := by
  rw [List.singleton_inj, String.append_right_inj]

/-- The row of the LAN port names an Ethernet link exactly when the walk does. -/
theorem lanPort_row_iff (h : a.Connected) {l : List Ifaddrs} (hl : a.nameList = some l) :
    NamesEthernetLink l ↔ ∃ e ∈ l, IsEthernetLink e ∧
      (init a).shown .lanPort = ["LAN port\t: " ++ e.ifaName] := by
  simp only [NamesEthernetLink, shown_lanPort h, label_inj, hl]

/-- The row of the address shows what `localWiFiIPAddress` answers, and "error" for
nil, exactly when the two searches agree. -/
theorem appleTVsIP_row_iff (h : a.Connected) (hloop : NoLoopbackWiFi a.addressList) :
    SearchesAgree a.addressList ↔ (init a).shown .appleTVsIP =
      ["AppleTV's IP: " ++ (localWiFiIPAddress a.addressList).getD "error"] := by
  rw [shown_appleTVsIP h, label_inj]
  constructor
  · rintro ⟨herror, -, hsame⟩
    cases hlocal : localWiFiIPAddress a.addressList with
    | none => exact herror.mpr hlocal
    | some s => exact hsame s hlocal
  · intro hrow
    have hwlan := activeWLAN_eq_false_iff a.addressList
    cases hlocal : localWiFiIPAddress a.addressList with
    | none =>
      rw [hlocal, Option.getD_none] at hrow
      exact ⟨⟨fun _ => hlocal, fun _ => hrow⟩, hwlan, fun s hs => nomatch hlocal.symm.trans hs⟩
    | some s =>
      rw [hlocal, Option.getD_some] at hrow
      have hne : s ≠ "error" := localWiFiIPAddress_ne_error hloop hlocal
      refine ⟨⟨fun he => absurd (hrow.symm.trans he) hne, fun hn => nomatch hlocal.symm.trans hn⟩,
        hwlan, fun t ht => ?_⟩
      obtain rfl := Option.some.inj (hlocal.symm.trans ht)
      exact hrow

end ATV2Utils.NetworkMainMenu
