import ReplicaControl.Unicode.Classes
import ReplicaControl.Unicode.Normalization

/-!
# Directions of writing

The characters with a strong direction, for the rule on mixed directions in `prepare`. A code point
that is not yet assigned is written from right to left where only scripts of that direction are
expected, and else from left to right, also where it is set aside for invisible characters.
-/

namespace ReplicaControl.Unicode

def rightToLeft : CodeRanges := .ofLines
  ["590 5BE 5C0 5C3 5C6 5C8-5FF 608 60B 60D 61B-64A 66D-66F 671-6D5 6E5-6E6 6EE-6EF 6FA-710",
   "712-72F 74B-7A5 7B1-7EA 7F4-7F5 7FA-7FC 7FE-815 81A 824 828 82E-858 85C-88F 892-896 8A0-8C9",
   "200F FB1D FB1F-FB28 FB2A-FD3D FD50-FDCE FDF0-FDFC FE70-FEFE 10800-1091E 10920-10A00 10A04",
   "10A07-10A0B 10A10-10A37 10A3B-10A3E 10A40-10AE4 10AE7-10B38 10B40-10D23 10D28-10D2F",
   "10D3A-10D3F 10D4A-10D68 10D6F-10E5F 10E7F-10EAA 10EAD-10EFB 10F00-10F45 10F51-10F81",
   "10F86-10FFF 1E800-1E8CF 1E8D7-1E943 1E94B-1EEEF 1EEF2-1EFFF"]

def leftToRight : CodeRanges := .ofLines
  ["41-5A 61-7A AA B5 BA C0-D6 D8-F6 F8-2B8 2BB-2C1 2D0-2D1 2E0-2E4 2EE 370-373 376-37D 37F-383",
   "386 388-3F5 3F7-482 48A-589 58B-58C 903-939 93B 93D-940 949-94C 94E-950 958-961 964-980",
   "982-9BB 9BD-9C0 9C5-9CC 9CE-9E1 9E4-9F1 9F4-9FA 9FC-9FD 9FF-A00 A03-A3B A3D-A40 A43-A46",
   "A49-A4A A4E-A50 A52-A6F A72-A74 A76-A80 A83-ABB ABD-AC0 AC6 AC9-ACC ACE-AE1 AE4-AF0 AF2-AF9",
   "B00 B02-B3B B3D-B3E B40 B45-B4C B4E-B54 B57-B61 B64-B81 B83-BBF BC1-BCC BCE-BF2 BFB-BFF",
   "C01-C03 C05-C3B C3D C41-C45 C49 C4E-C54 C57-C61 C64-C77 C7F-C80 C82-CBB CBD-CCB CCE-CE1",
   "CE4-CFF D02-D3A D3D-D40 D45-D4C D4E-D61 D64-D80 D82-DC9 DCB-DD1 DD5 DD7-E30 E32-E33 E3B-E3E",
   "E40-E46 E4F-EB0 EB2-EB3 EBD-EC7 ECF-F17 F1A-F34 F36 F38 F3E-F70 F7F F85 F88-F8C F98 FBD-FC5",
   "FC7-102C 1031 1038 103B-103C 103F-1057 105A-105D 1061-1070 1075-1081 1083-1084 1087-108C",
   "108E-109C 109E-135C 1360-138F 139A-13FF 1401-167F 1681-169A 169D-1711 1715-1731 1734-1751",
   "1754-1771 1774-17B3 17B6 17BE-17C5 17C7-17C8 17D4-17DA 17DC 17DE-17EF 17FA-17FF 1810-1884",
   "1887-18A8 18AA-191F 1923-1926 1929-1931 1933-1938 193C-193F 1941-1943 1946-19DD 1A00-1A16",
   "1A19-1A1A 1A1C-1A55 1A57 1A5F 1A61 1A63-1A64 1A6D-1A72 1A7D-1A7E 1A80-1AAF 1ACF-1AFF",
   "1B04-1B33 1B35 1B3B 1B3D-1B41 1B43-1B6A 1B74-1B7F 1B82-1BA1 1BA6-1BA7 1BAA 1BAE-1BE5 1BE7",
   "1BEA-1BEC 1BEE 1BF2-1C2B 1C34-1C35 1C38-1CCF 1CD3 1CE1 1CE9-1CEC 1CEE-1CF3 1CF5-1CF7",
   "1CFA-1DBF 1E00-1FBC 1FBE 1FC2-1FCC 1FD0-1FDC 1FE0-1FEC 1FF0-1FFC 1FFF 200E 2065 2071-2073",
   "207F 208F-209F 20F1-20FF 2102 2107 210A-2113 2115 2119-211D 2124 2126 2128 212A-212D",
   "212F-2139 213C-213F 2145-2149 214E-214F 2160-2188 218C-218F 2336-237A 2395 242A-243F",
   "244B-245F 249C-24E9 26AC 2800-28FF 2B74-2B75 2B96 2C00-2CE4 2CEB-2CEE 2CF2-2CF8 2D00-2D7E",
   "2D80-2DDF 2E5E-2E7F 2E9A 2EF4-2EFF 2FD6-2FEF 3005-3007 3021-3029 302E-302F 3031-3035",
   "3038-303C 3040-3098 309D-309F 30A1-30FA 30FC-31BF 31E6-31EE 31F0-321C 321F-324F 3260-327B",
   "327F-32B0 32C0-32CB 32D0-3376 337B-33DD 33E0-33FE 3400-4DBF 4E00-A48F A4C7-A60C A610-A66E",
   "A680-A69D A6A0-A6EF A6F2-A6FF A722-A787 A789-A801 A803-A805 A807-A80A A80C-A824 A827",
   "A82D-A837 A83A-A873 A878-A8C3 A8C6-A8DF A8F2-A8FE A900-A925 A92E-A946 A952-A97F A983-A9B2",
   "A9B4-A9B5 A9BA-A9BB A9BE-A9E4 A9E6-AA28 AA2F-AA30 AA33-AA34 AA37-AA42 AA44-AA4B AA4D-AA7B",
   "AA7D-AAAF AAB1 AAB5-AAB6 AAB9-AABD AAC0 AAC2-AAEB AAEE-AAF5 AAF7-AB69 AB6C-ABE4 ABE6-ABE7",
   "ABE9-ABEC ABEE-D7FF E000-FB1C FDD0-FDEF FE1A-FE1F FE53 FE67 FE6C-FE6F FF00 FF21-FF3A",
   "FF41-FF5A FF66-FFDF FFE7 FFEF-FFF8 FFFE-10100 10102-1013F 1018D-1018F 1019D-1019F",
   "101A1-101FC 101FE-102DF 102FC-10375 1037B-107FF 11000 11002-11037 11047-11051 11066-1106F",
   "11071-11072 11075-1107E 11082-110B2 110B7-110B8 110BB-110C1 110C3-110FF 11103-11126 1112C",
   "11135-11172 11174-1117F 11182-111B5 111BF-111C8 111CD-111CE 111D0-1122E 11232-11233 11235",
   "11238-1123D 1123F-11240 11242-112DE 112E0-112E2 112EB-112FF 11302-1133A 1133D-1133F",
   "11341-11365 1136D-1136F 11375-113BA 113C1-113CD 113CF 113D1 113D3-113E0 113E3-11437",
   "11440-11441 11445 11447-1145D 1145F-114B2 114B9 114BB-114BE 114C1 114C4-115B1 115B6-115BB",
   "115BE 115C1-115DB 115DE-11632 1163B-1163C 1163E 11641-1165F 1166D-116AA 116AC 116AE-116AF",
   "116B6 116B8-1171C 1171E 11720-11721 11726 1172C-1182E 11838 1183B-1193A 1193D 1193F-11942",
   "11944-119D3 119D8-119D9 119DC-119DF 119E1-11A00 11A07-11A08 11A0B-11A32 11A39-11A3A",
   "11A3F-11A46 11A48-11A50 11A57-11A58 11A5C-11A89 11A97 11A9A-11C2F 11C37 11C3E-11C91",
   "11CA8-11CA9 11CB1 11CB4 11CB7-11D30 11D37-11D39 11D3B 11D3E 11D46 11D48-11D8F 11D92-11D94",
   "11D96 11D98-11EF2 11EF5-11EFF 11F02-11F35 11F3B-11F3F 11F41 11F43-11F59 11F5B-11FD4",
   "11FF2-1343F 13441-13446 13456-1611D 1612A-1612C 16130-16AEF 16AF5-16B2F 16B37-16F4E",
   "16F50-16F8E 16F93-16FE1 16FE3 16FE5-1BC9C 1BC9F 1BCA4-1CBFF 1CCD6-1CCEF 1CCFA-1CCFF",
   "1CEB4-1CEFF 1CF2E-1CF2F 1CF47-1D166 1D16A-1D172 1D183-1D184 1D18C-1D1A9 1D1AE-1D1E8",
   "1D1EB-1D1FF 1D246-1D2FF 1D357-1D6DA 1D6DC-1D714 1D716-1D74E 1D750-1D788 1D78A-1D7C2",
   "1D7C4-1D7CD 1D800-1D9FF 1DA37-1DA3A 1DA6D-1DA74 1DA76-1DA83 1DA85-1DA9A 1DAA0 1DAB0-1DFFF",
   "1E007 1E019-1E01A 1E022 1E025 1E02B-1E08E 1E090-1E12F 1E137-1E2AD 1E2AF-1E2EB 1E2F0-1E2FE",
   "1E300-1E4EB 1E4F0-1E5ED 1E5F0-1E7FF 1F02C-1F02F 1F094-1F09F 1F0AF-1F0B0 1F0C0 1F0D0",
   "1F0F6-1F0FF 1F110-1F12E 1F130-1F169 1F170-1F1AC 1F1AE-1F25F 1F266-1F2FF 1F6D8-1F6DB",
   "1F6ED-1F6EF 1F6FD-1F6FF 1F777-1F77A 1F7DA-1F7DF 1F7EC-1F7EF 1F7F1-1F7FF 1F80C-1F80F",
   "1F848-1F84F 1F85A-1F85F 1F888-1F88F 1F8AE-1F8AF 1F8BC-1F8BF 1F8C2-1F8FF 1FA54-1FA5F",
   "1FA6E-1FA6F 1FA7D-1FA7F 1FA8A-1FA8E 1FAC7-1FACD 1FADD-1FADE 1FAEA-1FAEF 1FAF9-1FAFF 1FB93",
   "1FBFA-E0000 E0002-E001F E0080-E00FF E01F0-10FFFF"]

/-!
## Characters that prepared texts do not hold

What the preparation of names and passwords prohibits (`prohibited`), and what Unicode 3.2 did not
assign (`unassigned`).
-/

/-- Spaces other than the ASCII one, controls, private use, what is no character, and characters
that change or have no display. -/
def prohibited : CodeRanges := .ofLines
  ["0-1F 7F-A0 340-341 6DD 70F 1680 180E 2000-200F 2028-202F 205F-2063 206A-206F 2FF0-2FFB 3000",
   "E000-F8FF FDD0-FDEF FEFF FFF9-FFFF 1D173-1D17A 1FFFE-1FFFF 2FFFE-2FFFF 3FFFE-3FFFF",
   "4FFFE-4FFFF 5FFFE-5FFFF 6FFFE-6FFFF 7FFFE-7FFFF 8FFFE-8FFFF 9FFFE-9FFFF AFFFE-AFFFF",
   "BFFFE-BFFFF CFFFE-CFFFF DFFFE-DFFFF E0001 E0020-E007F EFFFE-10FFFF"]

/-- The code points that Unicode 3.2 did not assign. -/
def unassigned : CodeRanges := .ofLines
  ["221 234-24F 2AE-2AF 2EF-2FF 350-35F 370-373 376-379 37B-37D 37F-383 38B 38D 3A2 3CF 3F7-3FF",
   "487 4CF 4F6-4F7 4FA-4FF 510-530 557-558 560 588 58B-590 5A2 5BA 5C5-5CF 5EB-5EF 5F5-60B",
   "60D-61A 61C-61E 620 63B-63F 656-65F 6EE-6EF 6FF 70E 72D-72F 74B-77F 7B2-900 904 93A-93B",
   "94E-94F 955-957 971-980 984 98D-98E 991-992 9A9 9B1 9B3-9B5 9BA-9BB 9BD 9C5-9C6 9C9-9CA",
   "9CE-9D6 9D8-9DB 9DE 9E4-9E5 9FB-A01 A03-A04 A0B-A0E A11-A12 A29 A31 A34 A37 A3A-A3B A3D",
   "A43-A46 A49-A4A A4E-A58 A5D A5F-A65 A75-A80 A84 A8C A8E A92 AA9 AB1 AB4 ABA-ABB AC6 ACA",
   "ACE-ACF AD1-ADF AE1-AE5 AF0-B00 B04 B0D-B0E B11-B12 B29 B31 B34-B35 B3A-B3B B44-B46 B49-B4A",
   "B4E-B55 B58-B5B B5E B62-B65 B71-B81 B84 B8B-B8D B91 B96-B98 B9B B9D BA0-BA2 BA5-BA7 BAB-BAD",
   "BB6 BBA-BBD BC3-BC5 BC9 BCE-BD6 BD8-BE6 BF3-C00 C04 C0D C11 C29 C34 C3A-C3D C45 C49 C4E-C54",
   "C57-C5F C62-C65 C70-C81 C84 C8D C91 CA9 CB4 CBA-CBD CC5 CC9 CCE-CD4 CD7-CDD CDF CE2-CE5",
   "CF0-D01 D04 D0D D11 D29 D3A-D3D D44-D45 D49 D4E-D56 D58-D5F D62-D65 D70-D81 D84 D97-D99 DB2",
   "DBC DBE-DBF DC7-DC9 DCB-DCE DD5 DD7 DE0-DF1 DF5-E00 E3B-E3E E5C-E80 E83 E85-E86 E89 E8B-E8C",
   "E8E-E93 E98 EA0 EA4 EA6 EA8-EA9 EAC EBA EBE-EBF EC5 EC7 ECE-ECF EDA-EDB EDE-EFF F48 F6B-F70",
   "F8C-F8F F98 FBD FCD-FCE FD0-FFF 1022 1028 102B 1033-1035 103A-103F 105A-109F 10C6-10CF",
   "10F9-10FA 10FC-10FF 115A-115E 11A3-11A7 11FA-11FF 1207 1247 1249 124E-124F 1257 1259",
   "125E-125F 1287 1289 128E-128F 12AF 12B1 12B6-12B7 12BF 12C1 12C6-12C7 12CF 12D7 12EF 130F",
   "1311 1316-1317 131F 1347 135B-1360 137D-139F 13F5-1400 1677-167F 169D-169F 16F1-16FF 170D",
   "1715-171F 1737-173F 1754-175F 176D 1771 1774-177F 17DD-17DF 17EA-17FF 180F 181A-181F",
   "1878-187F 18AA-1DFF 1E9C-1E9F 1EFA-1EFF 1F16-1F17 1F1E-1F1F 1F46-1F47 1F4E-1F4F 1F58 1F5A",
   "1F5C 1F5E 1F7E-1F7F 1FB5 1FC5 1FD4-1FD5 1FDC 1FF0-1FF1 1FF5 1FFF 2053-2056 2058-205E",
   "2064-2069 2072-2073 208F-209F 20B2-20CF 20EB-20FF 213B-213C 214C-2152 2184-218F 23CF-23FF",
   "2427-243F 244B-245F 24FF 2614-2615 2618 267E-267F 268A-2700 2705 270A-270B 2728 274C 274E",
   "2753-2755 2757 275F-2760 2795-2797 27B0 27BF-27CF 27EC-27EF 2B00-2E7F 2E9A 2EF4-2EFF",
   "2FD6-2FEF 2FFC-2FFF 3040 3097-3098 3100-3104 312D-3130 318F 31B8-31EF 321D-321F 3244-3250",
   "327C-327E 32CC-32CF 32FF 3377-337A 33DE-33DF 33FF 4DB6-4DFF 9FA6-9FFF A48D-A48F A4C7-ABFF",
   "D7A4-D7FF FA2E-FA2F FA6B-FAFF FB07-FB12 FB18-FB1C FB37 FB3D FB3F FB42 FB45 FBB2-FBD2",
   "FD40-FD4F FD90-FD91 FDC8-FDCF FDFD-FDFF FE10-FE1F FE24-FE2F FE47-FE48 FE53 FE67 FE6C-FE6F",
   "FE75 FEFD-FEFE FF00 FFBF-FFC1 FFC8-FFC9 FFD0-FFD1 FFD8-FFD9 FFDD-FFDF FFE7 FFEF-FFF8",
   "10000-102FF 1031F 10324-1032F 1034B-103FF 10426-10427 1044E-1CFFF 1D0F6-1D0FF 1D127-1D129",
   "1D1DE-1D3FF 1D455 1D49D 1D4A0-1D4A1 1D4A3-1D4A4 1D4A7-1D4A8 1D4AD 1D4BA 1D4BC 1D4C1 1D4C4",
   "1D506 1D50B-1D50C 1D515 1D51D 1D53A 1D53F 1D545 1D547-1D549 1D551 1D6A4-1D6A7 1D7CA-1D7CD",
   "1D800-1FFFD 2A6D7-2F7FF 2FA1E-2FFFD 30000-3FFFD 40000-4FFFD 50000-5FFFD 60000-6FFFD",
   "70000-7FFFD 80000-8FFFD 90000-9FFFD A0000-AFFFD B0000-BFFFD C0000-CFFFD D0000-DFFFD E0000",
   "E0002-E001F E0080-EFFFD"]

/-!
## Preparing passwords

Passwords are prepared before they are hashed (specification, section 4.2), so that texts which look
alike give the same credentials. A text of printable ASCII characters is prepared already. In any
other one spaces are made equal and invisible characters dropped, the text is normalized, and it is
refused if a prohibited character is left, if directions of writing are mixed, or if a character was
not yet assigned in Unicode 3.2.

- `prepare`: the prepared text, or why there is none.
- `prepare_of_isPlain`: a text of printable ASCII characters stays as it is.
-/

/-- Why `prepare` refuses a text. An unassigned character counts as prohibited. -/
inductive PreparationFault where
  | prohibited (c : Char)
  | bidirectional
deriving DecidableEq

/-- The text of a fault. -/
def PreparationFault.message : PreparationFault → String
  | prohibited c => "prohibited character " ++ String.singleton (Char.ofNat 96) ++
      String.singleton c ++ String.singleton (Char.ofNat 96)
  | bidirectional => "prohibited bidirectional text"

/-- Whether `c` is printable ASCII. -/
def isPlain (c : Char) : Bool := 0x20 ≤ c.toNat && c.toNat < 0x7F

/-- Whether `c` is a space other than that of ASCII. -/
def isOtherSpace (c : Char) : Bool :=
  let n := c.toNat
  n == 0xA0 || n == 0x1680 || (0x2000 ≤ n && n ≤ 0x200B) || n == 0x202F || n == 0x205F ||
    n == 0x3000

/-- Whether `c` is dropped: soft hyphens, joiners, selectors of variants and the like. -/
def isDropped (c : Char) : Bool :=
  let n := c.toNat
  n == 0xAD || n == 0x34F || n == 0x1806 || (0x180B ≤ n && n ≤ 0x180D) ||
    (0x200B ≤ n && n ≤ 0x200D) || n == 0x2060 || (0xFE00 ≤ n && n ≤ 0xFE0F) || n == 0xFEFF

/-- `cs` with equal spaces and without what is dropped. -/
def mapped (cs : List Char) : List Char :=
  (cs.map fun c => if isOtherSpace c then ' ' else c).filter (!isDropped ·)

/-- Whether directions of writing are mixed: a text with a character of `rightToLeft` has none of
`leftToRight`, and begins and ends with one of `rightToLeft`. -/
def isMixed (cs : List Char) : Bool :=
  cs.any rightToLeft.contains &&
    (cs.any leftToRight.contains || !cs.head?.any rightToLeft.contains ||
      !cs.getLast?.any rightToLeft.contains)

/-- The first fault of a normalized text: what is `prohibited`, then mixed directions, then what is
`unassigned`. -/
def fault? (cs : List Char) : Option PreparationFault :=
  match cs.find? prohibited.contains with
  | some c => some (.prohibited c)
  | none =>
    if isMixed cs then some .bidirectional
    else (cs.find? unassigned.contains).map .prohibited

/-- The prepared text of `s`. -/
def prepare (s : String) : Except PreparationFault String :=
  if s.toList.all isPlain then .ok s
  else
    let cs := nfkc (mapped s.toList)
    match fault? cs with
    | some fault => .error fault
    | none => .ok (String.ofList cs)

theorem prepare_of_isPlain {s : String} (h : s.toList.all isPlain = true) :
    prepare s = .ok s := if_pos h

end ReplicaControl.Unicode
