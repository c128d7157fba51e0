import Mathlib.Algebra.Ring.Int.Defs
import Mathlib.Algebra.Ring.Nat
import SplitPanel.Board.Constants
import SplitPanel.Half.Shipped

/-!
# Accepted keyboard descriptions

A description is accepted exactly if it has all sections, and under every key that is looked at a
value of the right type and in its range.  The configuration then holds the entries as they stand in
the description: every number fits the word that it is kept in.  So the constants could as well be
written from the description itself, and the screens of both halves fit their buffers.  What is
said about any other description is short enough to be said in full.
-/

namespace SplitPanel

/-! ## Grids that fit -/

section

variable {capacity : ℕ} {geometry : Screen.Geometry}

theorem Screen.Geometry.cells_lt (geometry : Geometry) : geometry.cells < 2 ^ 16 := by
  have hcells := Nat.mul_lt_mul'' geometry.cols.toNat_lt geometry.rows.toNat_lt
  rwa [← Nat.pow_add] at hcells

theorem Screen.Buffers.make_of_check (hcheck : geometry.check capacity = .ok ()) :
    Screen.Buffers.make geometry = .ok (.cleared geometry : Screen.Buffers capacity) := by
  rw [make, hcheck]
  rfl

theorem Screen.CharGrid.make_of_check (hcheck : geometry.check capacity = .ok ()) :
    Screen.CharGrid.make geometry = .ok (.blank geometry : Screen.CharGrid capacity) := by
  rw [make, hcheck]
  rfl

theorem Station.make_of_check (hcheck : geometry.check capacity = .ok ()) (role : Side) :
    Station.make role geometry =
      .ok ({ role, screen := .cleared geometry, outbox := .empty } : Station capacity) := by
  rw [make, Screen.Buffers.make_of_check hcheck]
  rfl

theorem Half.make_of_check {config : Board.Config}
    (hcheck : config.geometry.check config.geometry.cells = .ok ()) {rows cols : ℕ}
    (keymap : Keys.Keymap rows cols) (role : Side) (panelStarts : Bool) :
    ∃ half, Half.make config keymap role panelStarts = .ok half := by
  rw [make, Station.make_of_check hcheck]
  exact ⟨_, rfl⟩

end

namespace Board

open Toml (Value)

/-! ## Entries -/

/-- The whole number under a key. -/
def integerAt? (document : Value) (part : Section) (key : String) : Option ℤ :=
  (valueAt? document part key).bind Value.integer?

/-- The text under a key. -/
def textAt? (document : Value) (part : Section) (key : String) : Option String :=
  (valueAt? document part key).bind Value.text?

/-- There is a whole number in a range under a key. -/
def HasIntegerIn (document : Value) (part : Section) (key : String) (low high : ℤ) : Prop :=
  ∃ number, integerAt? document part key = some number ∧ low ≤ number ∧ number ≤ high

/-- Every entry that is looked for is there, has the right type and lies in its range. -/
structure HasEntries (document : Value) : Prop where
  cols : HasIntegerIn document .display "cols" 1 panelCols
  rows : HasIntegerIn document .display "rows" 1 panelRows
  address : HasIntegerIn document .display "i2c_address" 0x08 0x77
  baudRate : HasIntegerIn document .split "baud_rate" 9600 1000000
  vendorId : HasIntegerIn document .usb "vid" 0 0xFFFF
  productId : HasIntegerIn document .usb "pid" 0 0xFFFF
  manufacturer : (textAt? document .usb "manufacturer").isSome
  product : (textAt? document .usb "product").isSome
  someLayers : 1 ≤ (writtenNames document).length
  notTooManyLayers : (writtenNames document).length ≤ maxLayerNames

/-- A document has all sections, and all entries in them. -/
structure Acceptable (document : Value) : Prop extends HasEntries document where
  sections : ∀ part : Section, (document.get? part.name).isSome

/-- The entries of a description are those of a configuration, number by number. -/
structure Describes (document : Value) (config : Config) : Prop where
  cols : integerAt? document .display "cols" = some (config.geometry.cols.toNat : ℤ)
  rows : integerAt? document .display "rows" = some (config.geometry.rows.toNat : ℤ)
  address : integerAt? document .display "i2c_address" = some (config.panelAddress.toNat : ℤ)
  baudRate : integerAt? document .split "baud_rate" = some (config.baudRate.toNat : ℤ)
  vendorId : integerAt? document .usb "vid" = some (config.vendorId.toNat : ℤ)
  productId : integerAt? document .usb "pid" = some (config.productId.toNat : ℤ)
  manufacturer : textAt? document .usb "manufacturer" = some config.manufacturer
  product : textAt? document .usb "product" = some config.product
  layerNames : writtenNames document = config.layerNames

variable {document : Value} {part : Section} {key : String} {low high : ℤ}

theorem integerIn_eq_ok_iff {number : ℤ} :
    integerIn document part key low high = .ok number ↔
      integerAt? document part key = some number ∧ low ≤ number ∧ number ≤ high := by
  rw [integerIn, ← integerAt?]
  cases hentry : integerAt? document part key with
  | none => simp
  | some entry =>
      by_cases hrange : low ≤ entry ∧ entry ≤ high
      · simp only [if_pos hrange, Except.ok.injEq, Option.some.injEq]
        exact ⟨fun heq => ⟨heq, heq ▸ hrange⟩, And.left⟩
      · simp only [if_neg hrange, reduceCtorEq, Option.some.injEq, false_iff]
        rintro ⟨rfl, hnumber⟩
        exact hrange hnumber

theorem hasIntegerIn_iff :
    HasIntegerIn document part key low high ↔
      ∃ number, integerIn document part key low high = .ok number :=
  exists_congr fun _ => integerIn_eq_ok_iff.symm

theorem HasIntegerIn.range (hin : HasIntegerIn document part key low high) {number : ℤ}
    (hentry : integerAt? document part key = some number) : low ≤ number ∧ number ≤ high := by
  obtain ⟨other, hother, hrange⟩ := hin
  rw [hentry] at hother
  exact Option.some.inj hother ▸ hrange

theorem textOf_eq_ok_iff {content : String} :
    textOf document part key = .ok content ↔ textAt? document part key = some content := by
  rw [textOf, ← textAt?]
  cases textAt? document part key <;> simp

theorem layerNamesOf_eq_ok_iff {names : List String} :
    layerNamesOf document = .ok names ↔
      writtenNames document = names ∧ 1 ≤ names.length ∧ names.length ≤ maxLayerNames := by
  rw [layerNamesOf]
  split
  · next hempty =>
    simp only [reduceCtorEq, false_iff]
    rintro ⟨rfl, hsome, -⟩
    rw [List.isEmpty_iff.mp hempty] at hsome
    contradiction
  · next hempty =>
    split
    · next hmany =>
      simp only [reduceCtorEq, false_iff]
      rintro ⟨rfl, -, hfew⟩
      exact Nat.not_lt.mpr hfew hmany
    · next hfew =>
      rw [Except.ok.injEq]
      refine ⟨?_, And.left⟩
      rintro rfl
      refine ⟨rfl, ?_, Nat.not_lt.mp hfew⟩
      exact List.length_pos_iff.mpr fun hnil => hempty (List.isEmpty_iff.mpr hnil)

/-- A number that cannot be too large for a word is still the same in it. -/
theorem integerAt?_eq_word {number : ℤ} (hin : integerIn document part key low high = .ok number)
    (hlow : 0 ≤ low) {size word : ℕ} (hhigh : high < size)
    (hword : number.toNat < size → word = number.toNat) :
    integerAt? document part key = some (word : ℤ) := by
  obtain ⟨hentry, habove, hbelow⟩ := integerIn_eq_ok_iff.mp hin
  have hnonneg : 0 ≤ number := Int.le_trans hlow habove
  have hsize : number.toNat < size := (Int.toNat_lt hnonneg).mpr (Int.lt_of_le_of_lt hbelow hhigh)
  rw [hentry, hword hsize, Int.toNat_of_nonneg hnonneg]

namespace Config

variable {config : Config}

theorem ofEntries_eq_ok (haccepted : ofEntries document = .ok config) :
    HasEntries document ∧ Describes document config := by
  rw [ofEntries] at haccepted
  split at haccepted
  · next hcols hrows haddress hbaudRate hvendorId hproductId hmanufacturer hproduct hnames =>
    obtain ⟨hwritten, hsome, hfew⟩ := layerNamesOf_eq_ok_iff.mp hnames
    have hmaker := textOf_eq_ok_iff.mp hmanufacturer
    have htitle := textOf_eq_ok_iff.mp hproduct
    cases haccepted
    constructor
    · exact {
        cols := hasIntegerIn_iff.mpr ⟨_, hcols⟩
        rows := hasIntegerIn_iff.mpr ⟨_, hrows⟩
        address := hasIntegerIn_iff.mpr ⟨_, haddress⟩
        baudRate := hasIntegerIn_iff.mpr ⟨_, hbaudRate⟩
        vendorId := hasIntegerIn_iff.mpr ⟨_, hvendorId⟩
        productId := hasIntegerIn_iff.mpr ⟨_, hproductId⟩
        manufacturer := Option.isSome_of_eq_some hmaker
        product := Option.isSome_of_eq_some htitle
        someLayers := hwritten ▸ hsome
        notTooManyLayers := hwritten ▸ hfew }
    · exact {
        cols := integerAt?_eq_word hcols (by decide) (by decide) UInt8.toNat_ofNat_of_lt
        rows := integerAt?_eq_word hrows (by decide) (by decide) UInt8.toNat_ofNat_of_lt
        address := integerAt?_eq_word haddress (by decide) (by decide) UInt8.toNat_ofNat_of_lt
        baudRate := integerAt?_eq_word hbaudRate (by decide) (by decide) UInt32.toNat_ofNat_of_lt
        vendorId := integerAt?_eq_word hvendorId (by decide) (by decide) UInt16.toNat_ofNat_of_lt
        productId := integerAt?_eq_word hproductId (by decide) (by decide) UInt16.toNat_ofNat_of_lt
        manufacturer := hmaker
        product := htitle
        layerNames := hwritten }
  · contradiction

theorem exists_ofEntries (hentries : HasEntries document) :
    ∃ config, ofEntries document = .ok config := by
  obtain ⟨cols, hcols⟩ := hasIntegerIn_iff.mp hentries.cols
  obtain ⟨rows, hrows⟩ := hasIntegerIn_iff.mp hentries.rows
  obtain ⟨address, haddress⟩ := hasIntegerIn_iff.mp hentries.address
  obtain ⟨baudRate, hbaudRate⟩ := hasIntegerIn_iff.mp hentries.baudRate
  obtain ⟨vendorId, hvendorId⟩ := hasIntegerIn_iff.mp hentries.vendorId
  obtain ⟨productId, hproductId⟩ := hasIntegerIn_iff.mp hentries.productId
  obtain ⟨manufacturer, hmanufacturer⟩ := Option.isSome_iff_exists.mp hentries.manufacturer
  obtain ⟨product, hproduct⟩ := Option.isSome_iff_exists.mp hentries.product
  have hnames := layerNamesOf_eq_ok_iff.mpr ⟨rfl, hentries.someLayers, hentries.notTooManyLayers⟩
  rw [ofEntries, hcols, hrows, haddress, hbaudRate, hvendorId, hproductId,
    textOf_eq_ok_iff.mpr hmanufacturer, textOf_eq_ok_iff.mpr hproduct, hnames]
  exact ⟨_, rfl⟩

theorem ofDocument_eq_ok_iff :
    ofDocument document = .ok config ↔
      (∀ part : Section, (document.get? part.name).isSome) ∧ ofEntries document = .ok config := by
  have hnone : Section.all.filter (fun part => (document.get? part.name).isNone) = [] ↔
      ∀ part : Section, (document.get? part.name).isSome := by
    simp [List.filter_eq_nil_iff, Section.mem_all, Option.isSome_iff_ne_none]
  rw [ofDocument]
  split
  · next hmissing => simp only [hnone.mp hmissing, implies_true, true_and]
  · next hmissing =>
    simp only [reduceCtorEq, false_iff]
    rintro ⟨hsections, -⟩
    exact hmissing (hnone.mpr hsections)

theorem ofDocument_isOk_iff :
    (∃ config, ofDocument document = .ok config) ↔ Acceptable document := by
  constructor
  · rintro ⟨config, haccepted⟩
    obtain ⟨hsections, hentries⟩ := ofDocument_eq_ok_iff.mp haccepted
    exact { ofEntries_eq_ok hentries |>.1 with sections := hsections }
  · intro hacceptable
    obtain ⟨config, hentries⟩ := exists_ofEntries hacceptable.toHasEntries
    exact ⟨config, ofDocument_eq_ok_iff.mpr ⟨hacceptable.sections, hentries⟩⟩

theorem describes_of_ofDocument (haccepted : ofDocument document = .ok config) :
    Describes document config :=
  (ofEntries_eq_ok (ofDocument_eq_ok_iff.mp haccepted).2).2

end Config

/-! ## Refusals in full -/

theorem fits_of_integerIn
    (hmissing : (Problem.missing part key).message.utf8ByteSize ≤ lineRoom)
    (hrange : (Problem.outOfRange part key low high).message.utf8ByteSize ≤ lineRoom) :
    ∀ problem ∈ problemOf (integerIn document part key low high),
      problem.message.utf8ByteSize ≤ lineRoom := by
  rw [integerIn]
  split
  · exact List.forall_mem_singleton.mpr hmissing
  · split
    · exact List.forall_mem_nil _
    · exact List.forall_mem_singleton.mpr hrange

theorem fits_of_textOf (hmissing : (Problem.missing part key).message.utf8ByteSize ≤ lineRoom) :
    ∀ problem ∈ problemOf (textOf document part key), problem.message.utf8ByteSize ≤ lineRoom := by
  rw [textOf]
  split
  · exact List.forall_mem_singleton.mpr hmissing
  · exact List.forall_mem_nil _

theorem fits_of_layerNamesOf :
    ∀ problem ∈ problemOf (layerNamesOf document), problem.message.utf8ByteSize ≤ lineRoom := by
  rw [layerNamesOf]
  split
  · exact List.forall_mem_singleton.mpr (by decide +kernel)
  · split
    · exact List.forall_mem_singleton.mpr (by decide +kernel)
    · exact List.forall_mem_nil _

/-- Whatever is wrong with a description, all of it fits in the box. -/
theorem lines_fit_of_refused {description : Option Value} {refusal : Refusal}
    (hrefused : Config.ofDescription description = .error refusal) :
    ∀ line ∈ refusal.lines, line.utf8ByteSize ≤ lineRoom := by
  cases description with
  | none =>
      cases hrefused
      exact List.forall_mem_singleton.mpr (by decide +kernel)
  | some document =>
      rw [Config.ofDescription, Config.ofDocument] at hrefused
      split at hrefused
      · rw [Config.ofEntries] at hrefused
        split at hrefused
        · contradiction
        · cases hrefused
          simp only [Refusal.lines, List.forall_mem_map, List.forall_mem_append]
          refine ⟨⟨⟨⟨⟨⟨⟨⟨?cols, ?rows⟩, ?address⟩, ?baudRate⟩, ?vendorId⟩, ?productId⟩,
            ?manufacturer⟩, ?product⟩, fits_of_layerNamesOf⟩
          case manufacturer | product => exact fits_of_textOf (by decide +kernel)
          all_goals exact fits_of_integerIn (by decide +kernel) (by decide +kernel)
      · cases hrefused
        refine List.forall_mem_map.mpr fun part _ => ?_
        cases part <;> decide +kernel

/-- No line of a refusal is cut. -/
theorem map_shortened_of_refused {description : Option Value} {refusal : Refusal}
    (hrefused : Config.ofDescription description = .error refusal) :
    refusal.lines.map shortened = refusal.lines :=
  calc refusal.lines.map shortened
      = refusal.lines.map id :=
        List.map_congr_left fun line hline => if_pos (lines_fit_of_refused hrefused line hline)
    _ = refusal.lines := List.map_id _

/-! ## Constants from the description itself -/

/-- The product of two whole numbers of 64 bits, if it is one too. -/
def product? (first second : ℤ) : Option ℤ :=
  if -2 ^ 63 ≤ first * second ∧ first * second < 2 ^ 63 then some (first * second) else none

/-- A whole number of 64 bits, read as one without a sign. -/
def unsigned (number : ℤ) : ℕ :=
  (BitVec.ofInt 64 number).toNat

/-- The constants, written from the entries as they stand in a description. -/
def constantsOf? (document : Value) : Option String := do
  let cols ← integerAt? document .display "cols"
  let rows ← integerAt? document .display "rows"
  let cells ← product? cols rows
  let address ← integerAt? document .display "i2c_address"
  let baudRate ← integerAt? document .split "baud_rate"
  let vendorId ← integerAt? document .usb "vid"
  let productId ← integerAt? document .usb "pid"
  let manufacturer ← textAt? document .usb "manufacturer"
  let product ← textAt? document .usb "product"
  return String.join [
    "// Generated from keyboard.toml by build.rs\n",
    Config.constant "DISPLAY_COLS" "u8" (toString cols),
    Config.constant "DISPLAY_ROWS" "u8" (toString rows),
    Config.constant "DISPLAY_CELLS" "usize" (toString cells),
    Config.constant "OLED_I2C_ADDRESS" "u8" (Config.hexadecimal 2 (unsigned address)),
    Config.constant "SPLIT_BAUD_RATE" "u32" (toString baudRate),
    Config.constant "USB_VID" "u16" (Config.hexadecimal 4 (unsigned vendorId)),
    Config.constant "USB_PID" "u16" (Config.hexadecimal 4 (unsigned productId)),
    Config.constant "USB_MANUFACTURER" "&str" (Text.quoted manufacturer),
    Config.constant "USB_PRODUCT" "&str" (Text.quoted product),
    Config.constant "LAYER_NAMES" "&[&str]" ("&" ++ Text.quotedList (writtenNames document))]

theorem unsigned_natCast {number : ℕ} (hfits : number < 2 ^ 64) : unsigned number = number := by
  rw [unsigned, BitVec.ofInt_natCast, BitVec.toNat_ofNat, Nat.mod_eq_of_lt hfits]

theorem product?_natCast {first second : ℕ} (hfits : first * second < 2 ^ 63) :
    product? first second = some ((first * second : ℕ) : ℤ) := by
  rw [product?, if_pos (by omega)]
  rfl

/-- The constants are the same whether they are written from the words of a configuration or from
the entries that it was made of. -/
theorem Describes.constantsOf?_eq {config : Config} (hdescribes : Describes document config) :
    constantsOf? document = some config.constants := by
  have hcells : product? config.geometry.cols.toNat config.geometry.rows.toNat =
      some (config.geometry.cells : ℤ) :=
    product?_natCast (Nat.lt_trans config.geometry.cells_lt (by decide))
  have haddress := unsigned_natCast (Nat.lt_trans config.panelAddress.toNat_lt (by decide))
  have hvendorId := unsigned_natCast (Nat.lt_trans config.vendorId.toNat_lt (by decide))
  have hproductId := unsigned_natCast (Nat.lt_trans config.productId.toNat_lt (by decide))
  -- The entries are named one by one: once they are put in under all the binds by rewriting, the
  -- kernel unfolds the whole text to compare it.
  simp only [constantsOf?, Option.bind_eq_bind, Option.bind_eq_some_iff, hdescribes.layerNames]
  refine ⟨_, hdescribes.cols, _, hdescribes.rows, _, hcells, _, hdescribes.address,
    _, hdescribes.baudRate, _, hdescribes.vendorId, _, hdescribes.productId,
    _, hdescribes.manufacturer, _, hdescribes.product, ?_⟩
  rw [haddress, hvendorId, hproductId]
  rfl

/-! ## Both halves -/

/-- The description of the keyboard as it is delivered, but for the array of layer names. -/
def shippedWith (names : List Value) : Value :=
  .table [
    ("display", .table [("cols", .integer 21), ("rows", .integer 4),
      ("i2c_address", .integer 0x3C)]),
    ("split", .table [("baud_rate", .integer 115200)]),
    ("usb", .table [("vid", .integer 0x04D8), ("pid", .integer 0xEB2D),
      ("manufacturer", .text "oledctrl"), ("product", .text "Lily58 OLED")]),
    ("layers", .table [("names", .array names)])]

namespace Config

variable {config : Config}

theorem check_of_ofDocument (haccepted : ofDocument document = .ok config) :
    config.geometry.check config.geometry.cells = .ok () := by
  have hdescribes := describes_of_ofDocument haccepted
  have hacceptable := ofDocument_isOk_iff.mp ⟨config, haccepted⟩
  have hcols : config.geometry.cols ≠ 0 := by
    intro hzero
    have hlow := (hacceptable.cols.range hdescribes.cols).1
    rw [hzero] at hlow
    contradiction
  have hrows : config.geometry.rows ≠ 0 := by
    intro hzero
    have hlow := (hacceptable.rows.range hdescribes.rows).1
    rw [hzero] at hlow
    contradiction
  exact Screen.Geometry.check_eq_ok_iff.mpr ⟨hcols, hrows, Nat.le_refl _⟩

/-- A description is accepted exactly if it has all sections and all entries, with the right types
and in their ranges.  Then the configuration holds all numbers of the description unchanged in its
words.  The number of cells is that of the columns times that of the rows, and fits a word as well.
Every entry is found again when the constants are written, and the screens of both halves, and so
the halves, can be made. -/
theorem accepted_boards_boot (document : Value) :
    ((∃ config, ofDocument document = .ok config) ↔ Acceptable document) ∧
    ∀ config, ofDocument document = .ok config →
      Describes document config ∧
      constantsOf? document = some config.constants ∧
      config.geometry.cells = config.geometry.cols.toNat * config.geometry.rows.toNat ∧
      config.geometry.cells < 2 ^ 32 ∧
      Screen.Buffers.make config.geometry =
        .ok (.cleared config.geometry : Screen.Buffers config.geometry.cells) ∧
      Screen.CharGrid.make config.geometry =
        .ok (.blank config.geometry : Screen.CharGrid config.geometry.cells) ∧
      ∀ role,
        Station.make role config.geometry =
          .ok ({ role, screen := .cleared config.geometry, outbox := .empty } :
            Station config.geometry.cells) ∧
        ∀ {rows cols : ℕ} (keymap : Keys.Keymap rows cols) panelStarts,
          ∃ half, Half.make config keymap role panelStarts = .ok half := by
  refine ⟨ofDocument_isOk_iff, ?_⟩
  intro config haccepted
  have hdescribes := describes_of_ofDocument haccepted
  have hcheck := check_of_ofDocument haccepted
  refine ⟨hdescribes, hdescribes.constantsOf?_eq, rfl, ?_, Screen.Buffers.make_of_check hcheck,
    Screen.CharGrid.make_of_check hcheck, ?_⟩
  · exact Nat.lt_trans config.geometry.cells_lt (by decide)
  · intro role
    refine ⟨Station.make_of_check hcheck role, ?_⟩
    intro _ _ keymap panelStarts
    exact Half.make_of_check hcheck keymap role panelStarts

/-- The description of the keyboard as it is delivered is accepted. -/
theorem accepted_boards_boot_of_shipped :
    let document := shippedWith [.text "Default", .text "Lower", .text "Raise", .text "Adjust"]
    ofDocument document = .ok Half.Shipped.config ∧ Acceptable document ∧
      Describes document Half.Shipped.config ∧
      constantsOf? document = some Half.Shipped.config.constants ∧
      ∃ keymap, Keys.Keymap.make Half.Shipped.layers (some Half.Shipped.triLayer) = .ok keymap ∧
        ∀ role panelStarts, ∃ half,
          Half.make Half.Shipped.config keymap role panelStarts = .ok half := by
  intro document
  have haccepted : ofDocument document = .ok Half.Shipped.config := rfl
  obtain ⟨hiff, hboots⟩ := accepted_boards_boot document
  obtain ⟨hdescribes, hconstants, -, -, -, -, hhalves⟩ := hboots _ haccepted
  refine ⟨haccepted, hiff.mp ⟨_, haccepted⟩, hdescribes, hconstants, ?_⟩
  refine ⟨_, rfl, ?_⟩
  intro role panelStarts
  exact (hhalves role).2 _ panelStarts

end Config

end Board

end SplitPanel
