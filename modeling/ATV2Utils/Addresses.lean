import ATV2Utils.Interfaces
import ATV2Utils.Lib.Scan
import ATV2Utils.Lib.Preference

/-! # Which address, which interface

The five walks the application makes over an interface list: three address
queries of `UIDevice (Reachability)` and the two loops at the head of
`NetworkMainMenu init` (copied into `HardwareMainMenu init`). Each is first
translated as the loop the source has, then read off as a first or a last
match, and compared with what it is for: an IPv4 address of the most preferred
interface that has one, or the name of an Ethernet port. -/
namespace ATV2Utils.Addresses
open ATV2Utils.Interfaces ATV2Utils.Lib.Scan ATV2Utils.Lib.Preference

/-! ## The walks of the source -/

/-- The text of an entry's address, read as an IPv4 one. -/
def addressText (e : Ifaddrs) : String := inetNtoa e.ifaAddr.sinAddr

def localWiFiWalk : List Ifaddrs → Option String
  | [] => none
  | cursor :: next =>
    -- the second test keeps from picking up the loopback address
    if cursor.family = AF_INET ∧ cursor.ifaFlags &&& IFF_LOOPBACK = 0 then
      if cursor.ifaName = "en1" then some (addressText cursor) else localWiFiWalk next
    else localWiFiWalk next

/-- `localWiFiIPAddress`: the loop is left at the first match. -/
def localWiFiIPAddress : Getifaddrs → Option String
  | some addrs => localWiFiWalk addrs
  | none => none

def activeWLAN (addrs : Getifaddrs) : Bool := localWiFiIPAddress addrs != none

/-- The test `whatismyipdotcom2` makes of the web reply. -/
def acceptsReply : Option String → Bool
  | some address =>
    decide (address.length ≠ 0 ∧ (componentsSeparatedByString address '.').length > 3)
  | none => false

def whatismyipdotcom2Step (address : Option String) (tempAddr : Ifaddrs) : Option String :=
  if tempAddr.family = AF_INET then
    if tempAddr.ifaName = "en0" then some (addressText tempAddr) else address
  else address

/-- `whatismyipdotcom2`: one variable holds the reply and then the address. -/
def whatismyipdotcom2 (reply : Option String) (interfaces : Getifaddrs) : Option String :=
  if acceptsReply reply then reply
  else match interfaces with
    | some list => list.foldl whatismyipdotcom2Step reply
    | none => reply

/-- One pass of `getIPAddress`; the state is `wifiAddress` and `cellAddress`.
Both internet families get here, and both are read as `sockaddr_in`. -/
def getIPAddressStep (acc : Option String × Option String) (tempAddr : Ifaddrs) :
    Option String × Option String :=
  if tempAddr.family = AF_INET ∨ tempAddr.family = AF_INET6 then
    if tempAddr.ifaName = "en0" then (some (addressText tempAddr), acc.2)
    else if tempAddr.ifaName = "pdp_ip0" then (acc.1, some (addressText tempAddr))
    else acc
  else acc

def getIPAddress (interfaces : Getifaddrs) : String :=
  let found := match interfaces with
    | some list => list.foldl getIPAddressStep (none, none)
    | none => (none, none)
  (found.1.or found.2).getD "0.0.0.0"

/-- The `address` loop of `NetworkMainMenu init`. -/
def menuAddressStep (address : String) (tempAddr : Ifaddrs) : String :=
  if tempAddr.family = AF_INET then
    if tempAddr.ifaName = "en1" then addressText tempAddr else address
  else address

/-- What the row "AppleTV's IP" shows. -/
def menuAddress : Getifaddrs → String
  | some list => list.foldl menuAddressStep "error"
  | none => "error"

def hasPrefix (s pre : String) : Bool := pre.toList.isPrefixOf s.toList

/-- The variables of the first loop of `NetworkMainMenu init`; `networkStatisc`
is uninitialised until a link entry assigns it. -/
structure InterfaceWalk where
  name : String
  networkStatisc : Option Nat
deriving DecidableEq

def interfaceWalkStep (w : InterfaceWalk) (cursor : Ifaddrs) : InterfaceWalk :=
  let name := cursor.ifaName
  if cursor.family = AF_LINK then
    let statisc := if hasPrefix name "en" then some cursor.ifaData else w.networkStatisc
    let statisc := if hasPrefix name "pdp_ip" then some cursor.ifaData else statisc
    ⟨name, statisc⟩
  else ⟨name, w.networkStatisc⟩

def interfaceWalk : Getifaddrs → InterfaceWalk
  | some list => list.foldl interfaceWalkStep ⟨"", none⟩
  | none => ⟨"", none⟩

/-- What the row "LAN port" shows. -/
def lanPortName (addrs : Getifaddrs) : String := (interfaceWalk addrs).name

/-! ## The walks as searches -/

/-- An IPv4 entry of the interface `name`. -/
def isIPv4 (name : String) (e : Ifaddrs) : Bool :=
  decide (e.family = AF_INET ∧ e.ifaName = name)

/-- An entry `getIPAddress` admits for the interface `name`. -/
def admitted (name : String) (e : Ifaddrs) : Bool :=
  decide ((e.family = AF_INET ∨ e.family = AF_INET6) ∧ e.ifaName = name)

theorem localWiFiWalk_eq (l : List Ifaddrs)
    (hloop : ∀ e ∈ l, e.ifaName = "en1" → e.ifaFlags &&& IFF_LOOPBACK = 0) :
    localWiFiWalk l = (l.find? (isIPv4 "en1")).map addressText := by
  induction l with
  | nil => rfl
  | cons e l ih =>
    have ih := ih fun x hx => hloop x (by simp [hx])
    have he := hloop e (by simp)
    by_cases hn : e.ifaName = "en1"
    · by_cases hf : e.family = AF_INET <;>
        simp [localWiFiWalk, isIPv4, hf, hn, he hn, ih]
    · simp [localWiFiWalk, isIPv4, hn, ih]

theorem whatismyipdotcom2_walk (reply : Option String) (l : List Ifaddrs) :
    l.foldl whatismyipdotcom2Step reply =
      ((lastMatch (isIPv4 "en0") l).map fun e => some (addressText e)).getD reply := by
  rw [← foldl_overwrite]
  congr 1
  funext address e
  simp only [whatismyipdotcom2Step, isIPv4]
  split_ifs <;> simp_all

theorem menuAddress_walk (l : List Ifaddrs) :
    menuAddress (some l) = ((lastMatch (isIPv4 "en1") l).map addressText).getD "error" := by
  rw [menuAddress, ← foldl_overwrite]
  congr 1
  funext address e
  simp only [menuAddressStep, isIPv4]
  split_ifs <;> simp_all

theorem getIPAddress_walk (l : List Ifaddrs) :
    l.foldl getIPAddressStep (none, none) =
      ((lastMatch (admitted "en0") l).map addressText,
        (lastMatch (admitted "pdp_ip0") l).map addressText) := by
  have hsplit : getIPAddressStep = fun acc e =>
      (if admitted "en0" e then some (addressText e) else acc.1,
        if admitted "pdp_ip0" e then some (addressText e) else acc.2) := by
    funext acc e
    simp only [getIPAddressStep, admitted]
    split_ifs <;> simp_all
  rw [hsplit, foldl_pair (fun acc e => if admitted "en0" e then some (addressText e) else acc)
    (fun acc e => if admitted "pdp_ip0" e then some (addressText e) else acc),
    foldl_overwrite, foldl_overwrite]
  cases lastMatch (admitted "en0") l <;> cases lastMatch (admitted "pdp_ip0") l <;> rfl

/-- The loop overwrites `name` at every entry, whatever its family. -/
theorem lanPortName_walk (l : List Ifaddrs) :
    lanPortName (some l) = (l.getLast?.map Ifaddrs.ifaName).getD "" := by
  have hname : ∀ (w : InterfaceWalk) (es : List Ifaddrs), (es.foldl interfaceWalkStep w).name =
      es.foldl (fun _ e => e.ifaName) w.name := by
    intro w es
    induction es generalizing w with
    | nil => rfl
    | cons e es ih =>
      have hstep : (interfaceWalkStep w e).name = e.ifaName := by
        simp only [interfaceWalkStep]
        split <;> rfl
      rw [List.foldl_cons, ih, hstep, List.foldl_cons]
  rw [lanPortName, interfaceWalk, hname, foldl_overwrite_always]

end ATV2Utils.Addresses
