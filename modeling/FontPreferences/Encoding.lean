import FontPreferences.SelectionList

/-
The text encodings that may be chosen as the default one.
-/
namespace FontPreferences
namespace Encoding

/-- The name of each encoding and the label shown for it, grouped by region. -/
def table : List (String × String) := [
  ("UTF-8", "Unicode (UTF-8)"),
  ("UTF-16LE", "Unicode (UTF-16LE)"),
  ("ISO-8859-1", "Western (ISO-8859-1)"),
  ("windows-1252", "Western (Windows-1252)"),
  ("ISO-8859-15", "Western (ISO-8859-15)"),
  ("macintosh", "Western (Macintosh)"),
  ("ISO-8859-2", "Central European (ISO-8859-2)"),
  ("windows-1250", "Central European (Windows-1250)"),
  ("ISO-8859-13", "Baltic (ISO-8859-13)"),
  ("windows-1257", "Baltic (Windows-1257)"),
  ("ISO-8859-4", "Baltic (ISO-8859-4)"),
  ("ISO-8859-14", "Celtic (ISO-8859-14)"),
  ("ISO-8859-10", "Nordic (ISO-8859-10)"),
  ("ISO-8859-3", "South European (ISO-8859-3)"),
  ("ISO-8859-16", "Romanian (ISO-8859-16)"),
  ("ISO-8859-5", "Cyrillic (ISO-8859-5)"),
  ("windows-1251", "Cyrillic (Windows-1251)"),
  ("KOI8-R", "Cyrillic (KOI8-R)"),
  ("KOI8-U", "Cyrillic (KOI8-U)"),
  ("IBM866", "Cyrillic (IBM866)"),
  ("ISO-8859-7", "Greek (ISO-8859-7)"),
  ("windows-1253", "Greek (Windows-1253)"),
  ("windows-1254", "Turkish (Windows-1254)"),
  ("ISO-8859-9", "Turkish (ISO-8859-9)"),
  ("ISO-8859-8", "Hebrew (ISO-8859-8)"),
  ("ISO-8859-8-I", "Hebrew (ISO-8859-8-I)"),
  ("windows-1255", "Hebrew (Windows-1255)"),
  ("ISO-8859-6", "Arabic (ISO-8859-6)"),
  ("windows-1256", "Arabic (Windows-1256)"),
  ("windows-874", "Thai (Windows-874)"),
  ("windows-1258", "Vietnamese (Windows-1258)"),
  ("GBK", "Simplified Chinese (GBK)"),
  ("gb18030", "Simplified Chinese (GB18030)"),
  ("Big5", "Traditional Chinese (Big5)"),
  ("Shift_JIS", "Japanese (Shift_JIS)"),
  ("EUC-JP", "Japanese (EUC-JP)"),
  ("ISO-2022-JP", "Japanese (ISO-2022-JP)"),
  ("EUC-KR", "Korean (EUC-KR)")]

/-- Every encoding, as a choice. -/
def choices : List Choice :=
  table.map fun e => ⟨e.1, e.2⟩

end Encoding
end FontPreferences
