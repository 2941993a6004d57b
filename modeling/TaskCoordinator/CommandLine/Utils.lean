import TaskCoordinator.Library.Transition
import Mathlib.Algebra.Order.Ring.Int
import Mathlib.Tactic.SplitIfs

/-!
# Numbers and endpoints of a command line

The conversions of `<string>` that the programs call, and the functions of `utils.hpp`.  Texts are
taken apart in characters.  An exception carries its text, which `main` prints.
-/

namespace TaskCoordinator

namespace Config

def maxWorkerThreads : UInt64 := 8
def maxClients : UInt64 := 256

end Config

namespace CommandLine

/-! ## Numbers -/

def isSpace (c : Char) : Bool :=
  c ∈ [' ', '\t', '\n', '\x0b', '\x0c', '\r']

/-- A sign at the front, which is a minus. -/
def splitSign : List Char → Bool × List Char
  | '-' :: rest => (true, rest)
  | '+' :: rest => (false, rest)
  | text => (false, text)

/-- What `strtol` and `strtoul` read: white space, at most one sign, and the digits up to the first
other character.  Whatever comes then is ignored.  There is no number without a digit. -/
def scanNumber (text : List Char) : Option (Bool × Nat) :=
  let (negative, rest) := splitSign (text.dropWhile isSpace)
  let digits := rest.takeWhile Char.isDigit
  if digits = [] then
    none
  else
    some (negative, Nat.ofDigitChars 10 digits 0)

/-- `std::stoi`, where `none` is an exception. -/
def stoi (text : String) : Option Int := do
  let (negative, magnitude) ← scanNumber text.toList
  let value : Int := if negative then -magnitude else magnitude
  if -2147483648 ≤ value ∧ value ≤ 2147483647 then some value else none

/-- `std::stoul` and `std::stoull`.  A negative number is not refused: it wraps around. -/
def stoull (text : String) : Option UInt64 := do
  let (negative, magnitude) ← scanNumber text.toList
  if magnitude < 2 ^ 64 then
    let value := UInt64.ofNat magnitude
    some (if negative then -value else value)
  else
    none

def stoul (text : String) : Option UInt64 :=
  stoull text

theorem splitSign_of_digit {c : Char} (digit : c.isDigit) (rest : List Char) :
    splitSign (c :: rest) = (false, c :: rest) := by
  unfold splitSign
  split
  next same =>
    cases same
    exact absurd digit (by decide)
  next same =>
    cases same
    exact absurd digit (by decide)
  next => rfl

theorem not_isSpace_of_digit {c : Char} (digit : c.isDigit) : isSpace c = false := by
  by_contra space
  simp only [isSpace, Bool.not_eq_false, decide_eq_true_eq, List.mem_cons, List.not_mem_nil,
    or_false] at space
  obtain rfl | rfl | rfl | rfl | rfl | rfl := space
  all_goals exact absurd digit (by decide)

/-- A number that has been printed is read back. -/
theorem scanNumber_toString (n : Nat) : scanNumber (toString n).toList = some (false, n) := by
  have printed : (toString n).toList = Nat.toDigits 10 n := by simp
  have digits : ∀ c ∈ Nat.toDigits 10 n, c.isDigit := fun c member =>
    Nat.isDigit_of_mem_toDigits (by decide) (by decide) member
  have whole : (Nat.toDigits 10 n).takeWhile Char.isDigit = Nat.toDigits 10 n :=
    List.takeWhile_eq_self_iff.mpr digits
  obtain ⟨c, rest, text⟩ := List.exists_cons_of_ne_nil (Nat.toDigits_ne_nil (n := n) (b := 10))
  have digit : c.isDigit := digits c (text ▸ List.mem_cons_self)
  have start : (c :: rest).dropWhile isSpace = c :: rest :=
    List.dropWhile_cons_of_neg (by simp [not_isSpace_of_digit digit])
  rw [printed, scanNumber, text, start, splitSign_of_digit digit]
  simp only [← text, whole, if_neg Nat.toDigits_ne_nil, Nat.ofDigitChars_ten_toDigits]

theorem stoi_toString {n : Nat} (small : n ≤ 2147483647) : stoi (toString n) = some (n : Int) := by
  have range : -2147483648 ≤ (n : Int) ∧ (n : Int) ≤ 2147483647 := by omega
  rw [stoi, scanNumber_toString]
  exact if_pos range

theorem stoull_toString (n : UInt64) : stoull (toString n.toNat) = some n := by
  rw [stoull, scanNumber_toString]
  have range : n.toNat < 18446744073709551616 := n.toNat_lt
  simp [range]

/-! ## The functions of `utils.hpp` -/

def validatePort (port : Int) : Except String Unit :=
  if port ≤ 0 ∨ port > 65535 then
    .error "Port must be in range 1-65535"
  else
    .ok ()

/-- A number of threads. -/
def validateCount (label : String) (max count : UInt64) : Except String Unit :=
  if count = 0 ∨ count > max then
    .error (label ++ " must be in range 1-" ++ toString max.toNat)
  else
    .ok ()

def validateWorkers (workers : UInt64) : Except String Unit :=
  validateCount "Workers" Config.maxWorkerThreads workers

def validateClients (clients : UInt64) : Except String Unit :=
  validateCount "Clients" Config.maxClients clients

/-- `validate_numeric` at an unsigned type. -/
def validateNumeric (value : UInt64) (label : String) : Except String Unit :=
  if value ≤ 0 then
    .error (label ++ " must be greater than zero")
  else
    .ok ()

/-- `static_cast<uint16_t>` of a port that has passed the check. -/
def port16 (port : Int) : UInt16 :=
  UInt16.ofNat port.toNat

/-- The address of a coordinator. -/
structure Address where
  ip : String
  port : UInt16
  deriving DecidableEq, Repr

/-- The texts before and after the first separator. -/
def splitFirst (separator : Char) (text : List Char) : Option (List Char × List Char) :=
  if separator ∈ text then
    some (text.takeWhile (· ≠ separator), (text.dropWhile (· ≠ separator)).tail)
  else
    none

def parseEndpoint (input : String) : Except String Address :=
  match splitFirst ':' input.toList with
  | none => .error "Invalid endpoint format. Expected <ip:port>"
  | some (ip, portStr) =>
      match stoi (String.ofList portStr) with
      | none => .error "Invalid port in endpoint (must be numeric)"
      | some port => do
          validatePort port
          .ok { ip := String.ofList ip, port := port16 port }

/-- An address as it is written on a command line. -/
def Address.text (address : Address) : String :=
  address.ip ++ ":" ++ toString address.port.toNat

theorem splitFirst_append {separator : Char} {before : List Char} (clean : separator ∉ before)
    (after : List Char) :
    splitFirst separator (before ++ separator :: after) = some (before, after) := by
  have kept : ∀ c ∈ before, decide (c ≠ separator) = true := by
    intro c member
    exact decide_eq_true fun same => clean (same ▸ member)
  rw [splitFirst, if_pos (by simp), List.takeWhile_append_of_pos kept,
    List.dropWhile_append_of_pos kept]
  simp

theorem splitFirst_eq_some {separator : Char} {text before after : List Char}
    (found : splitFirst separator text = some (before, after)) :
    text = before ++ separator :: after ∧ separator ∉ before := by
  by_cases member : separator ∈ text
  · obtain ⟨first, rest, rfl, clean⟩ := List.eq_append_cons_of_mem member
    rw [splitFirst_append clean] at found
    cases found
    exact ⟨rfl, clean⟩
  · rw [splitFirst, if_neg member] at found
    cases found

theorem validatePort_eq_ok {port : Int} :
    validatePort port = .ok () ↔ 0 < port ∧ port ≤ 65535 := by
  unfold validatePort
  split_ifs with bad
  · simp only [false_iff]
    omega
  · simp only [true_iff]
    omega

theorem validateCount_eq_ok {label : String} {max count : UInt64} :
    validateCount label max count = .ok () ↔ 0 < count ∧ count ≤ max := by
  unfold validateCount
  split_ifs with bad
  · refine iff_of_false (by simp) fun bounds => ?_
    obtain rfl | above := bad
    · exact absurd bounds.1 (by decide)
    · exact absurd bounds.2 (UInt64.not_le.mpr above)
  · obtain ⟨nonzero, below⟩ := not_or.mp bad
    exact iff_of_true rfl ⟨UInt64.pos_iff_ne_zero.mpr nonzero, UInt64.not_lt.mp below⟩

theorem validateNumeric_eq_ok {value : UInt64} {label : String} :
    validateNumeric value label = .ok () ↔ 0 < value := by
  unfold validateNumeric
  split_ifs with bad
  · exact iff_of_false (by simp) (UInt64.not_lt.mpr bad)
  · exact iff_of_true rfl (UInt64.not_le.mp bad)

/-- A port that has been accepted. -/
theorem port16_pos {port : Int} (valid : validatePort port = .ok ()) : 0 < port16 port := by
  obtain ⟨positive, small⟩ := validatePort_eq_ok.mp valid
  have range : port.toNat < UInt16.size := by
    have size : UInt16.size = 65536 := rfl
    omega
  rw [UInt16.lt_iff_toNat_lt, port16, UInt16.toNat_ofNat_of_lt' range, UInt16.toNat_zero]
  omega

/-- A port that has been printed is accepted. -/
theorem port_toString {port : UInt16} (positive : 0 < port) :
    stoi (toString port.toNat) = some (port.toNat : Int) ∧
      validatePort port.toNat = .ok () ∧ port16 port.toNat = port := by
  have range : port.toNat < 65536 := port.toNat_lt
  have nonzero : 0 < port.toNat := by rwa [UInt16.lt_iff_toNat_lt] at positive
  refine ⟨stoi_toString (by omega), validatePort_eq_ok.mpr ⟨by omega, by omega⟩, ?_⟩
  rw [port16, Int.toNat_natCast, UInt16.ofNat_toNat]

/-- An address whose text can be read back. -/
structure Address.WellFormed (address : Address) : Prop where
  clean : ':' ∉ address.ip.toList
  port : 0 < address.port

theorem parseEndpoint_wellFormed {input : String} {address : Address}
    (parsed : parseEndpoint input = .ok address) :
    address.WellFormed ∧ ∃ port, input.toList = address.ip.toList ++ ':' :: port := by
  unfold parseEndpoint at parsed
  split at parsed
  next => cases parsed
  next ip portStr found =>
    obtain ⟨text, clean⟩ := splitFirst_eq_some found
    split at parsed
    next => cases parsed
    next port _ =>
      obtain ⟨_, valid, built⟩ := Transition.bind_eq_ok.mp parsed
      cases built
      exact ⟨⟨by simpa using clean, port16_pos valid⟩, portStr, by simpa using text⟩

theorem parseEndpoint_text {address : Address} (wellFormed : address.WellFormed) :
    parseEndpoint address.text = .ok address := by
  obtain ⟨read, valid, same⟩ := port_toString wellFormed.port
  have text : address.text.toList =
      address.ip.toList ++ ':' :: (toString address.port.toNat).toList := by
    simp [Address.text]
  rw [parseEndpoint, text, splitFirst_append wellFormed.clean]
  simp only [String.ofList_toList, read, valid, same]
  rfl

end CommandLine

end TaskCoordinator
