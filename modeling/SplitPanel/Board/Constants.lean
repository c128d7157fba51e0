import SplitPanel.Board.Config
import SplitPanel.Text.Quoted

/-!
# Generated constants

The configuration as the constants that the firmware of both halves is compiled with.
-/

namespace SplitPanel.Board.Config

/-- A number in hexadecimal, with zeros in front up to a number of digits. -/
def hexadecimal (digits number : Nat) : String :=
  "0x" ++ String.ofList ((Nat.toDigits 16 number).leftpad digits '0')

/-- One constant. -/
def constant (name type value : String) : String :=
  "pub const " ++ name ++ ": " ++ type ++ " = " ++ value ++ ";\n"

def constants (config : Config) : String :=
  String.join [
    "// Generated from keyboard.toml by build.rs\n",
    constant "DISPLAY_COLS" "u8" (toString config.geometry.cols.toNat),
    constant "DISPLAY_ROWS" "u8" (toString config.geometry.rows.toNat),
    constant "DISPLAY_CELLS" "usize" (toString config.geometry.cells),
    constant "OLED_I2C_ADDRESS" "u8" (hexadecimal 2 config.panelAddress.toNat),
    constant "SPLIT_BAUD_RATE" "u32" (toString config.baudRate.toNat),
    constant "USB_VID" "u16" (hexadecimal 4 config.vendorId.toNat),
    constant "USB_PID" "u16" (hexadecimal 4 config.productId.toNat),
    constant "USB_MANUFACTURER" "&str" (Text.quoted config.manufacturer),
    constant "USB_PRODUCT" "&str" (Text.quoted config.product),
    constant "LAYER_NAMES" "&[&str]" ("&" ++ Text.quotedList config.layerNames)]

end SplitPanel.Board.Config
