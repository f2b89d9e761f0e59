import FlowDump.Decimal.Unsigned

/-!
# Names of flow fields

A flow entry is written under short names: attributes under their number, the fields of the flow
key under two letters.  Operators read long names.

* `Flow.attributeNames` — the long names of the attributes, by number.
* `Flow.keyAbbreviations` — the long names of the key fields, by abbreviation.
* `Flow.relabel` — the long name of a field as written, the field itself where there is none.
-/

namespace FlowDump.Flow

/-! ### The tables -/

/-- The attributes of a flow entry; the position of a name is its number. -/
def attributeNames : List String :=
  [ "ACTION",
    "VERSION",
    "DASH_DIRECTION",
    "DASH_FLOW_ACTION",
    "METER_CLASS",
    "IS_UNIDIRECTIONAL_FLOW",
    "DASH_FLOW_SYNC_STATE",
    "REVERSE_FLOW_ENI_MAC",
    "REVERSE_FLOW_VNET_ID",
    "REVERSE_FLOW_SRC_IP",
    "REVERSE_FLOW_DST_IP",
    "REVERSE_FLOW_IP_PROTO",
    "REVERSE_FLOW_SRC_PORT",
    "REVERSE_FLOW_DST_PORT",
    "REVERSE_FLOW_DST_IP_IS_V6",
    "UNDERLAY0_VNET_ID",
    "UNDERLAY0_SIP",
    "UNDERLAY0_DIP",
    "UNDERLAY0_SMAC",
    "UNDERLAY0_DMAC",
    "UNDERLAY0_DASH_ENCAPSULATION",
    "UNDERLAY1_VNET_ID",
    "UNDERLAY1_SIP",
    "UNDERLAY1_DIP",
    "UNDERLAY1_SMAC",
    "UNDERLAY1_DMAC",
    "UNDERLAY1_DASH_ENCAPSULATION",
    "DST_MAC",
    "SIP",
    "DIP",
    "SIP_MASK",
    "DIP_MASK",
    "VENDOR_METADATA",
    "FLOW_DATA_PB" ]

/-- The fields of a flow key by their abbreviations. -/
def keyAbbreviations : List (String × String) :=
  [ ("em", "ENI_MAC"),
    ("vi", "VNET_ID"),
    ("pr", "IP_PROTO"),
    ("si", "SRC_IP"),
    ("di", "DST_IP"),
    ("sp", "SRC_PORT"),
    ("dp", "DST_PORT"),
    ("v6", "IS_IP_V6") ]

/-! ### Looking names up -/

/-- The name in `attributeNames` with the number that a text stands for. -/
def attributeName? (code : String) : Option String :=
  (Decimal.readUnsigned? Decimal.max64 code.toList).bind fun n => attributeNames[n]?

/-- The name in `keyAbbreviations` of the key field with an abbreviation. -/
def expandAbbreviation? (key : String) : Option String :=
  (keyAbbreviations.find? (fun p => p.1 = key)).map (·.2)

/-- Whether a field name is an attribute number: digits and nothing else. -/
def isNumericCode (key : String) : Bool :=
  key ≠ "" && key.toList.all Char.isDigit

/-- The name under which a field is shown: by `attributeName?` for a number, and by
    `expandAbbreviation?` otherwise.  Numbers without an attribute and names that are neither number
    nor abbreviation stay as they are. -/
def relabel (key : String) : String :=
  ((if isNumericCode key then attributeName? key else expandAbbreviation? key)).getD key

end FlowDump.Flow
