import Pppcpd.Config.RoundTrip

namespace Pppcpd
namespace Yaml

open Foundation

/-!
# Texts of scalars, and the configuration that is generated

Numbers are written in decimal, flags as words, addresses as four numbers with
dots between them and networks with the length of their prefix behind a slash.
The daemon generates a sample configuration with these texts.
-/

/-- The characters of a text. -/
def letters (text : Bytes) : List Char := text.map (fun byte => Char.ofNat byte.toNat)

def writeNumber (number : Nat) : Bytes := ascii (toString number)

/-- A decimal number below a bound. -/
def readNumber (bound : Nat) (text : Bytes) : Option Nat :=
  let number := Nat.ofDigitChars 10 (letters text) 0
  if letters text ≠ [] ∧ (letters text).all Char.isDigit ∧ number < bound then some number else none

theorem letters_writeNumber (number : Nat) : letters (writeNumber number) = Nat.toDigits 10 number := by
  unfold letters writeNumber
  rw [ascii_read (small_digits number), Nat.toString_eq_ofList_toDigits, String.toList_ofList]

theorem readNumber_writeNumber {bound number : Nat} (below : number < bound) :
    readNumber bound (writeNumber number) = some number := by
  have digits : (Nat.toDigits 10 number).all Char.isDigit = true :=
    List.all_eq_true.mpr (fun _ member => Nat.isDigit_of_mem_toDigits (by decide) (by decide) member)
  unfold readNumber
  simp only [letters_writeNumber, Nat.ofDigitChars_ten_toDigits]
  exact if_pos ⟨Nat.toDigits_ne_nil, digits, below⟩

/-- A byte that stands between numbers is in none of them. -/
theorem not_mem_writeNumber {separator : UInt8} (other : (Char.ofNat separator.toNat).isDigit = false)
    (number : Nat) : separator ∉ writeNumber number := by
  intro member
  have listed : Char.ofNat separator.toNat ∈ letters (writeNumber number) :=
    List.mem_map.mpr ⟨separator, member, rfl⟩
  rw [letters_writeNumber] at listed
  have digit := Nat.isDigit_of_mem_toDigits (by decide) (by decide) listed
  rw [other] at digit
  cases digit

def boolScalar : Scalar Bool where
  write := fun value => if value then ascii "true" else ascii "false"
  read := fun text =>
    if text = ascii "true" then some true
    else if text = ascii "false" then some false
    else none
  lossless := by decide

def uint16Scalar : Scalar UInt16 where
  write := fun value => writeNumber value.toNat
  read := fun text => (readNumber 65536 text).map UInt16.ofNat
  lossless := by
    intro value
    rw [readNumber_writeNumber value.toNat_lt, Option.map_some, UInt16.ofNat_toNat]

def uint32Scalar : Scalar UInt32 where
  write := fun value => writeNumber value.toNat
  read := fun text => (readNumber 4294967296 text).map UInt32.ofNat
  lossless := by
    intro value
    rw [readNumber_writeNumber value.toNat_lt, Option.map_some, UInt32.ofNat_toNat]

/-- The four numbers of an address. -/
def writeAddress (address : UInt32) : Bytes :=
  [46].intercalate ((bytes32 address).map (fun byte => writeNumber byte.toNat))

def readAddress (text : Bytes) : Option UInt32 :=
  match (text.splitOn 46).mapM (readNumber 256) with
  | some [first, second, third, fourth] =>
      some (be32 (.ofNat first) (.ofNat second) (.ofNat third) (.ofNat fourth))
  | _ => none

theorem readAddress_writeAddress (address : UInt32) :
    readAddress (writeAddress address) = some address := by
  have split : (writeAddress address).splitOn 46 =
      (bytes32 address).map (fun byte => writeNumber byte.toNat) := by
    refine List.splitOn_intercalate 46 (fun part member => ?_) (by simp [bytes32])
    rcases List.mem_map.mp member with ⟨byte, _, equal⟩
    rw [← equal]
    exact not_mem_writeNumber (by decide) _
  have numbers : ((bytes32 address).map (fun byte => writeNumber byte.toNat)).mapM (readNumber 256) =
      some ((bytes32 address).map UInt8.toNat) := by
    induction bytes32 address with
    | nil => rfl
    | cons byte rest inductionHypothesis =>
        rw [List.map_cons, List.mapM_cons, readNumber_writeNumber byte.toNat_lt, inductionHypothesis]
        rfl
  unfold readAddress
  rw [split, numbers]
  simp only [bytes32, List.map_cons, List.map_nil, UInt8.ofNat_toNat, be32_bytes32]

def writeNetwork (network : Network) : Bytes :=
  [47].intercalate [writeAddress network.address, writeNumber network.prefixLength]

def readNetwork (text : Bytes) : Option Network :=
  match text.splitOn 47 with
  | [address, prefixLength] => do
      let address <- readAddress address
      let number <- readNumber 33 prefixLength
      return { address, prefixLength := Fin.ofNat 33 number }
  | _ => none

/-- There is no slash in an address. -/
theorem slash_not_mem_writeAddress (address : UInt32) : 47 ∉ writeAddress address := by
  have absent := @not_mem_writeNumber 47 (by decide)
  simp [writeAddress, bytes32, List.intercalate, absent]

theorem readNetwork_writeNetwork (network : Network) :
    readNetwork (writeNetwork network) = some network := by
  have split : (writeNetwork network).splitOn 47 =
      [writeAddress network.address, writeNumber network.prefixLength] := by
    refine List.splitOn_intercalate 47 (fun part member => ?_) (List.cons_ne_nil _ _)
    rcases List.mem_pair.mp member with address | number
    · rw [address]
      exact slash_not_mem_writeAddress network.address
    · rw [number]
      exact not_mem_writeNumber (by decide) _
  unfold readNetwork
  rw [split]
  dsimp only
  rw [readAddress_writeAddress, readNumber_writeNumber network.prefixLength.isLt]
  simp

/-- The texts of the libraries. -/
def plainScalars : Scalars where
  bool := boolScalar
  uint16 := uint16Scalar
  uint32 := uint32Scalar
  address := ⟨writeAddress, readAddress, readAddress_writeAddress⟩
  network := ⟨writeNetwork, readNetwork, readNetwork_writeNetwork⟩

/-! ## The sample configuration -/

/-- The templates of the sample. -/
def template1 : PPPOELocalTemplate where
  framedPool := ascii "pppoe_pool1"
  dns1 := 0x08080808
  dns2 := 0x01010101
  unnumbered := ascii "G1.150"

def template2 : PPPOELocalTemplate :=
  { template1 with
    framedPool := ascii "vrf_pool1", vrf := ascii "RED", unnumbered := ascii "G1.250" }

/-- The units of the second interface of the sample. -/
def unit150 : InterfaceUnit := { address := some ⟨0x0a000002, 24⟩, vlan := 150 }

def unit250 : InterfaceUnit :=
  { unit150 with address := some ⟨0x0a0a0002, 24⟩, vlan := 250, vrf := ascii "RED" }

def defaultGateway (nexthop : UInt32) : StaticRIB where
  entries := [{ destination := ⟨0, 0⟩, nexthop := nexthop, description := ascii "default gateway" }]

/-- The configuration that `conf_init` writes. -/
def confInit : PPPOEGlobalConf where
  tapName := ascii "tap0"
  logLevel := .info
  interfaces := [
    { device := ascii "G0", mtu := some 1500
      units := ((∅ : Table UInt16 InterfaceUnit).insert 202 { vlan := 202 }).insert 201 { vlan := 201 }
        |>.insert 200 { vlan := 200 } },
    { device := ascii "G1", mtu := some 1500
      units := ((∅ : Table UInt16 InterfaceUnit).insert 250 unit250).insert 150 unit150 }]
  defaultPppoeConf := {
    acName := ascii "vBNG AC PPPoE", serviceName := [ascii "inet", ascii "pppoe"]
    insertCookie := true, ignoreServiceName := true }
  pppoeTemplates := ((∅ : Table Bytes PPPOELocalTemplate).insert (ascii "template2") template2).insert
    (ascii "template1") template1
  aaaConf := {
    method := [.none, .radius]
    pools := ((∅ : Table Bytes FramedPool).insert (ascii "vrf_pool1")
      { startIp := 0x6442000a, stopIp := 0x644200ff }).insert (ascii "pppoe_pool1")
      { startIp := 0x6440000a, stopIp := 0x6440ffff }
    localTemplate := ascii "template1"
    dictionaries := [ascii "/usr/share/freeradius/dictionary.rfc2865",
      ascii "/usr/share/freeradius/dictionary.rfc2866",
      ascii "/usr/share/freeradius/dictionary.rfc2869",
      ascii "/usr/share/freeradius/dictionary.ericsson.ab"]
    authServers := (∅ : Table Bytes AAARadConf).insert (ascii "main_auth_1")
      { address := 0x7f000001, port := 1812, secret := ascii "testing123" }
    acctServers := (∅ : Table Bytes AAARadConf).insert (ascii "main_acct_1")
      { address := 0x7f000001, port := 1813, secret := ascii "testing123" } }
  globalRib := defaultGateway 0x0a000001
  vrfs := [{ name := ascii "RED", tableId := 10, rib := defaultGateway 0x0a0a0001 }]

/-- What is generated loads to what was generated. -/
theorem confInit_returns : confInit.Returns plainScalars :=
  (PPPOEGlobalConf.returns_iff plainScalars confInit).mpr (by decide)

/-- The sample with a unit that borrows the address of another interface. -/
def confUnnumbered : PPPOEGlobalConf :=
  { confInit with interfaces := [
      { device := ascii "G1"
        units := (∅ : Table UInt16 InterfaceUnit).insert 250
          { unit250 with address := none, unnumbered := ascii "G1.150" } }] }

/-- It is lost in the file. -/
theorem confUnnumbered_lost : ¬ confUnnumbered.Returns plainScalars := by
  rintro ⟨read, decoded, same⟩
  rw [PPPOEGlobalConf.decode_encode] at decoded
  rw [← Option.some.inj decoded, PPPOEGlobalConf.configured_loaded] at same
  have units := congrArg (fun conf => conf.interfaces.map (fun interface =>
    interface.units.values.map InterfaceUnit.unnumbered)) same
  revert units
  decide

end Yaml
end Pppcpd
