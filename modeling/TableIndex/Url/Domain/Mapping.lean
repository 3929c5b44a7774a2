import TableIndex.Text.Ranges

/-!
# Characters of domain names

What becomes of every character before a name is looked at: it stays as it is, or it is replaced by what it
means, like a capital letter, a ligature or a letter of double width, or it is dropped, or it has no place in
a name at all. The data are the mapping table for international domain names. A replacement that holds a
character that is forbidden in names counts as no place, and one that is canonically the same as the
character is left out, since names are composed afterwards.
-/

namespace TableIndex.Url.Domain

open Text (Ranges)

/-! ## The tables -/

/-- The characters that have no place in a name. -/
def excludedTable : String := "
  0080-00A0 00A8 00AF 00B4 00B8 02D8-02DD 0378-037A 0380-0385 038B 038D 03A2 0530 0557-0558 058B-058C
  0590 05C8-05CF 05EB-05EE 05F5-0605 061C 06DD 070E-070F 074B-074C 07B2-07BF 07FB-07FC 082E-082F 083F
  085C-085D 085F 086B-086F 0890-0896 08E2 0984 098D-098E 0991-0992 09A9 09B1 09B3-09B5 09BA-09BB
  09C5-09C6 09C9-09CA 09CF-09D6 09D8-09DB 09DE 09E4-09E5 09FF-0A00 0A04 0A0B-0A0E 0A11-0A12 0A29 0A31
  0A34 0A37 0A3A-0A3B 0A3D 0A43-0A46 0A49-0A4A 0A4E-0A50 0A52-0A58 0A5D 0A5F-0A65 0A77-0A80 0A84 0A8E
  0A92 0AA9 0AB1 0AB4 0ABA-0ABB 0AC6 0ACA 0ACE-0ACF 0AD1-0ADF 0AE4-0AE5 0AF2-0AF8 0B00 0B04 0B0D-0B0E
  0B11-0B12 0B29 0B31 0B34 0B3A-0B3B 0B45-0B46 0B49-0B4A 0B4E-0B54 0B58-0B5B 0B5E 0B64-0B65 0B78-0B81
  0B84 0B8B-0B8D 0B91 0B96-0B98 0B9B 0B9D 0BA0-0BA2 0BA5-0BA7 0BAB-0BAD 0BBA-0BBD 0BC3-0BC5 0BC9
  0BCE-0BCF 0BD1-0BD6 0BD8-0BE5 0BFB-0BFF 0C0D 0C11 0C29 0C3A-0C3B 0C45 0C49 0C4E-0C54 0C57 0C5B
  0C5E-0C5F 0C64-0C65 0C70-0C76 0C8D 0C91 0CA9 0CB4 0CBA-0CBB 0CC5 0CC9 0CCE-0CD4 0CD7-0CDB 0CDF
  0CE4-0CE5 0CF0 0CF4-0CFF 0D0D 0D11 0D45 0D49 0D50-0D53 0D64-0D65 0D80 0D84 0D97-0D99 0DB2 0DBC
  0DBE-0DBF 0DC7-0DC9 0DCB-0DCE 0DD5 0DD7 0DE0-0DE5 0DF0-0DF1 0DF5-0E00 0E3B-0E3E 0E5C-0E80 0E83 0E85
  0E8B 0EA4 0EA6 0EBE-0EBF 0EC5 0EC7 0ECF 0EDA-0EDB 0EE0-0EFF 0F48 0F6D-0F70 0F98 0FBD 0FCD 0FDB-0FFF
  10C6 10C8-10CC 10CE-10CF 1249 124E-124F 1257 1259 125E-125F 1289 128E-128F 12B1 12B6-12B7 12BF 12C1
  12C6-12C7 12D7 1311 1316-1317 135B-135C 137D-137F 139A-139F 13F6-13F7 13FE-13FF 1680 169D-169F
  16F9-16FF 1716-171E 1737-173F 1754-175F 176D 1771 1774-177F 17DE-17DF 17EA-17EF 17FA-17FF 181A-181F
  1879-187F 18AB-18AF 18F6-18FF 191F 192C-192F 193C-193F 1941-1943 196E-196F 1975-197F 19AC-19AF
  19CA-19CF 19DB-19DD 1A1C-1A1D 1A5F 1A7D-1A7E 1A8A-1A8F 1A9A-1A9F 1AAE-1AAF 1ADE-1ADF 1AEC-1AFF 1B4D
  1BF4-1BFB 1C38-1C3A 1C4A-1C4C 1C8B-1C8F 1CBB-1CBC 1CC8-1CCF 1CFB-1CFF 1F16-1F17 1F1E-1F1F 1F46-1F47
  1F4E-1F4F 1F58 1F5A 1F5C 1F5E 1F7E-1F7F 1FB5 1FBD 1FBF-1FC1 1FC5 1FCD-1FCF 1FD4-1FD5 1FDC-1FDF
  1FED-1FEE 1FF0-1FF1 1FF5 1FFD-200A 200E-200F 2017 2024-2026 2028-202F 203E 2047-2049 205F 2065-2069
  2072-2073 208F 209D-209F 20C2-20CF 20F1-2101 2105-2106 218C-218F 242A-243F 244B-245F 2488-249B 2A74
  2B74-2B75 2CF4-2CF8 2D26 2D28-2D2C 2D2E-2D2F 2D68-2D6E 2D71-2D7E 2D97-2D9F 2DA7 2DAF 2DB7 2DBF 2DC7
  2DCF 2DD7 2DDF 2E5E-2E7F 2E9A 2EF4-2EFF 2FD6-3000 3040 3097-3098 309B-309C 3100-3104 3130 318F
  31E6-31EF 321F 33C2 33C7 33D8 A48D-A48F A4C7-A4CF A62C-A63F A6F8-A6FF A7DD-A7F0 A82D-A82F A83A-A83F
  A878-A87F A8C6-A8CD A8DA-A8DF A954-A95E A97D-A97F A9CE A9DA-A9DD A9FF AA37-AA3F AA4E-AA4F AA5A-AA5B
  AAC3-AADA AAF7-AB00 AB07-AB08 AB0F-AB10 AB17-AB1F AB27 AB2F AB6C-AB6F ABEE-ABEF ABFA-ABFF D7A4-D7AF
  D7C7-D7CA D7FC-F8FF FA6E-FA6F FADA-FAFF FB07-FB12 FB18-FB1C FB37 FB3D FB3F FB42 FB45 FC5E-FC63
  FDD0-FDEF FDFA-FDFB FE12-FE13 FE16 FE19-FE1F FE30 FE47-FE4C FE52-FE53 FE55-FE56 FE5F FE64-FE65
  FE67-FE68 FE6A-FE70 FE72 FE74-FE76 FE78 FE7A FE7C FE7E FEFD-FEFE FF00 FF03 FF05 FF0F FF1A FF1C
  FF1E-FF20 FF3B-FF3E FF5C FFBF-FFC1 FFC8-FFC9 FFD0-FFD1 FFD8-FFD9 FFDD-FFDF FFE3 FFE7 FFEF-FFFF 1000C
  10027 1003B 1003E 1004E-1004F 1005E-1007F 100FB-100FF 10103-10106 10134-10136 1018F 1019D-1019F
  101A1-101CF 101FE-1027F 1029D-1029F 102D1-102DF 102FC-102FF 10324-1032C 1034B-1034F 1037B-1037F
  1039E 103C4-103C7 103D6-103FF 1049E-1049F 104AA-104AF 104D4-104D7 104FC-104FF 10528-1052F
  10564-1056E 1057B 1058B 10593 10596 105A2 105B2 105BA 105BD-105BF 105F4-105FF 10737-1073F
  10756-1075F 10768-1077F 10786 107B1 107BB-107FF 10806-10807 10809 10836 10839-1083B 1083D-1083E
  10856 1089F-108A6 108B0-108DF 108F3 108F6-108FA 1091C-1091E 1093A-1093E 1095A-1097F 109B8-109BB
  109D0-109D1 10A04 10A07-10A0B 10A14 10A18 10A36-10A37 10A3B-10A3E 10A49-10A4F 10A59-10A5F
  10AA0-10ABF 10AE7-10AEA 10AF7-10AFF 10B36-10B38 10B56-10B57 10B73-10B77 10B92-10B98 10B9D-10BA8
  10BB0-10BFF 10C49-10C7F 10CB3-10CBF 10CF3-10CF9 10D28-10D2F 10D3A-10D3F 10D66-10D68 10D86-10D8D
  10D90-10E5F 10E7F 10EAA 10EAE-10EAF 10EB2-10EC1 10EC8-10ECF 10ED9-10EF9 10F28-10F2F 10F5A-10F6F
  10F8A-10FAF 10FCC-10FDF 10FF7-10FFF 1104E-11051 11076-1107E 110BD 110C3-110CF 110E9-110EF
  110FA-110FF 11135 11148-1114F 11177-1117F 111E0 111F5-111FF 11212 11242-1127F 11287 11289 1128E
  1129E 112AA-112AF 112EB-112EF 112FA-112FF 11304 1130D-1130E 11311-11312 11329 11331 11334 1133A
  11345-11346 11349-1134A 1134E-1134F 11351-11356 11358-1135C 11364-11365 1136D-1136F 11375-1137F
  1138A 1138C-1138D 1138F 113B6 113C1 113C3-113C4 113C6 113CB 113D6 113D9-113E0 113E3-113FF 1145C
  11462-1147F 114C8-114CF 114DA-1157F 115B6-115B7 115DE-115FF 11645-1164F 1165A-1165F 1166D-1167F
  116BA-116BF 116CA-116CF 116E4-116FF 1171B-1171C 1172C-1172F 11747-117FF 1183C-1189F 118F3-118FE
  11907-11908 1190A-1190B 11914 11917 11936 11939-1193A 11947-1194F 1195A-1199F 119A8-119A9
  119D8-119D9 119E5-119FF 11A48-11A4F 11AA3-11AAF 11AF9-11AFF 11B0A-11B5F 11B68-11BBF 11BE2-11BEF
  11BFA-11BFF 11C09 11C37 11C46-11C4F 11C6D-11C6F 11C90-11C91 11CA8 11CB7-11CFF 11D07 11D0A
  11D37-11D39 11D3B 11D3E 11D48-11D4F 11D5A-11D5F 11D66 11D69 11D8F 11D92 11D99-11D9F 11DAA-11DAF
  11DDC-11DDF 11DEA-11EDF 11EF9-11EFF 11F11 11F3B-11F3D 11F5B-11FAF 11FB1-11FBF 11FF2-11FFE
  1239A-123FF 1246F 12475-1247F 12544-12F8F 12FF3-12FFF 13430-1343F 13456-1345F 143FB-143FF
  14647-160FF 1613A-167FF 16A39-16A3F 16A5F 16A6A-16A6D 16ABF 16ACA-16ACF 16AEE-16AEF 16AF6-16AFF
  16B46-16B4F 16B5A 16B62 16B78-16B7C 16B90-16D3F 16D7A-16E3F 16E9B-16E9F 16EB9-16EBA 16ED4-16EFF
  16F4B-16F4E 16F88-16F8E 16FA0-16FDF 16FE5-16FEF 16FF7-16FFF 18CD6-18CFE 18D1F-18D7F 18DF3-1AFEF
  1AFF4 1AFFC 1AFFF 1B123-1B131 1B133-1B14F 1B153-1B154 1B156-1B163 1B168-1B16F 1B2FC-1BBFF
  1BC6B-1BC6F 1BC7D-1BC7F 1BC89-1BC8F 1BC9A-1BC9B 1BCA4-1CBFF 1CCFD-1CCFF 1CEB4-1CEB9 1CED1-1CEDF
  1CEF1-1CEFF 1CF2E-1CF2F 1CF47-1CF4F 1CFC4-1CFFF 1D0F6-1D0FF 1D127-1D128 1D1EB-1D1FF 1D246-1D2BF
  1D2D4-1D2DF 1D2F4-1D2FF 1D357-1D35F 1D379-1D3FF 1D455 1D49D 1D4A0-1D4A1 1D4A3-1D4A4 1D4A7-1D4A8
  1D4AD 1D4BA 1D4BC 1D4C4 1D506 1D50B-1D50C 1D515 1D51D 1D53A 1D53F 1D545 1D547-1D549 1D551
  1D6A6-1D6A7 1D7CC-1D7CD 1DA8C-1DA9A 1DAA0 1DAB0-1DEFF 1DF1F-1DF24 1DF2B-1DFFF 1E007 1E019-1E01A
  1E022 1E025 1E02B-1E02F 1E06E-1E08E 1E090-1E0FF 1E12D-1E12F 1E13E-1E13F 1E14A-1E14D 1E150-1E28F
  1E2AF-1E2BF 1E2FA-1E2FE 1E300-1E4CF 1E4FA-1E5CF 1E5FB-1E5FE 1E600-1E6BF 1E6DF 1E6F6-1E6FD
  1E700-1E7DF 1E7E7 1E7EC 1E7EF 1E7FF 1E8C5-1E8C6 1E8D7-1E8FF 1E94C-1E94F 1E95A-1E95D 1E960-1EC70
  1ECB5-1ED00 1ED3E-1EDFF 1EE04 1EE20 1EE23 1EE25-1EE26 1EE28 1EE33 1EE38 1EE3A 1EE3C-1EE41
  1EE43-1EE46 1EE48 1EE4A 1EE4C 1EE50 1EE53 1EE55-1EE56 1EE58 1EE5A 1EE5C 1EE5E 1EE60 1EE63
  1EE65-1EE66 1EE6B 1EE73 1EE78 1EE7D 1EE7F 1EE8A 1EE9C-1EEA0 1EEA4 1EEAA 1EEBC-1EEEF 1EEF2-1EFFF
  1F02C-1F02F 1F094-1F09F 1F0AF-1F0B0 1F0C0 1F0D0 1F0F6-1F100 1F1AE-1F1E5 1F203-1F20F 1F23C-1F23F
  1F249-1F24F 1F252-1F25F 1F266-1F2FF 1F6D9-1F6DB 1F6ED-1F6EF 1F6FD-1F6FF 1F7DA-1F7DF 1F7EC-1F7EF
  1F7F1-1F7FF 1F80C-1F80F 1F848-1F84F 1F85A-1F85F 1F888-1F88F 1F8AE-1F8AF 1F8BC-1F8BF 1F8C2-1F8CF
  1F8D9-1F8FF 1FA58-1FA5F 1FA6E-1FA6F 1FA7D-1FA7F 1FA8B-1FA8D 1FAC7 1FAC9-1FACC 1FADD-1FADE
  1FAEB-1FAEE 1FAF9-1FAFF 1FB93 1FBFB-1FFFF 2A6E0-2A6FF 2B81E-2B81F 2CEAE-2CEAF 2EBE1-2EBEF
  2EE5E-2F7FF 2FA1E-2FFFF 3134B-3134F 3347A-E00FF E01F0-10FFFF"

/-- The characters that are dropped. -/
def ignoredTable : String := "
  00AD 034F 115F-1160 17B4-17B5 180B-180F 200B 2060-2064 206A-206F 3164 FE00-FE0F FEFF FFA0
  1BCA0-1BCA3 1D173-1D17A E0100-E01EF"

/-- Runs of characters that move by one distance: `(first, last, step, distance)` holds every `step`-th code
point from `first` to `last`. -/
def movedRuns : List (Nat × Nat × Nat × Int) := [
  (0x00C0, 0x00D6, 1, 32), (0x00D8, 0x00DE, 1, 32), (0x0100, 0x012E, 2, 1), (0x0139, 0x013D, 2, 1),
  (0x0141, 0x0147, 2, 1), (0x014A, 0x0176, 2, 1), (0x0179, 0x017D, 2, 1), (0x01A0, 0x01A4, 2, 1),
  (0x01CD, 0x01DB, 2, 1), (0x01DE, 0x01EE, 2, 1), (0x01F8, 0x021E, 2, 1), (0x0222, 0x0232, 2, 1),
  (0x0246, 0x024E, 2, 1), (0x0388, 0x038A, 1, 37), (0x0391, 0x03A1, 1, 32), (0x03A3, 0x03AB, 1, 32),
  (0x03D8, 0x03EE, 2, 1), (0x03FD, 0x03FF, 1, -130), (0x0400, 0x040F, 1, 80), (0x0410, 0x042F, 1, 32),
  (0x0460, 0x0480, 2, 1), (0x048A, 0x04BE, 2, 1), (0x04C1, 0x04CD, 2, 1), (0x04D0, 0x052E, 2, 1),
  (0x0531, 0x0556, 1, 48), (0x10A0, 0x10C5, 1, 7264), (0x13F8, 0x13FD, 1, -8),
  (0x1C90, 0x1CBA, 1, -3008), (0x1CBD, 0x1CBF, 1, -3008), (0x1D31, 0x1D39, 2, -7372),
  (0x1D34, 0x1D3A, 2, -7372), (0x1D5D, 0x1D5F, 1, -6571), (0x1DA4, 0x1DA6, 1, -6972),
  (0x1DAE, 0x1DB1, 1, -6972), (0x1DBC, 0x1DBE, 1, -6956), (0x1E00, 0x1E94, 2, 1),
  (0x1EA0, 0x1EFE, 2, 1), (0x1F08, 0x1F0F, 1, -8), (0x1F18, 0x1F1D, 1, -8), (0x1F28, 0x1F2F, 1, -8),
  (0x1F38, 0x1F3F, 1, -8), (0x1F48, 0x1F4D, 1, -8), (0x1F59, 0x1F5F, 2, -8), (0x1F68, 0x1F6F, 1, -8),
  (0x2074, 0x2079, 1, -8256), (0x2080, 0x2089, 1, -8272), (0x2096, 0x2099, 1, -8235),
  (0x2119, 0x211B, 1, -8361), (0x2135, 0x2138, 1, -7013), (0x2460, 0x2468, 1, -9263),
  (0x24B6, 0x24CF, 1, -9301), (0x24D0, 0x24E9, 1, -9327), (0x2C00, 0x2C2F, 1, 48),
  (0x2C67, 0x2C6B, 2, 1), (0x2C80, 0x2CE2, 2, 1), (0x3137, 0x3139, 1, -8244),
  (0x313A, 0x313F, 1, -8074), (0x3141, 0x3143, 1, -8251), (0x3145, 0x314E, 1, -8252),
  (0x314F, 0x3163, 1, -8174), (0x3178, 0x317C, 1, -8269), (0x3184, 0x3186, 1, -8237),
  (0x3263, 0x3265, 1, -8542), (0x3269, 0x326D, 1, -8539), (0x32E4, 0x32E9, 1, -538),
  (0x32EE, 0x32F2, 1, -528), (0x32F5, 0x32FA, 1, -525), (0x32FB, 0x32FE, 1, -524),
  (0xA640, 0xA66C, 2, 1), (0xA680, 0xA69A, 2, 1), (0xA722, 0xA72E, 2, 1), (0xA732, 0xA76E, 2, 1),
  (0xA77E, 0xA786, 2, 1), (0xA796, 0xA7A8, 2, 1), (0xA7B4, 0xA7C2, 2, 1), (0xA7CC, 0xA7DA, 2, 1),
  (0xAB70, 0xABBF, 1, -38864), (0xFB24, 0xFB26, 1, -62793), (0xFE41, 0xFE44, 1, -52789),
  (0xFF02, 0xFF18, 2, -65248), (0xFF07, 0xFF0D, 2, -65248), (0xFF11, 0xFF1D, 2, -65248),
  (0xFF21, 0xFF3A, 1, -65216), (0xFF3F, 0xFF5B, 1, -65248), (0xFF85, 0xFF8A, 1, -52923),
  (0xFF8F, 0xFF93, 1, -52913), (0xFF96, 0xFF9B, 1, -52910), (0xFFA7, 0xFFA9, 1, -61092),
  (0xFFAA, 0xFFAF, 1, -60922), (0xFFB1, 0xFFB3, 1, -61099), (0xFFB5, 0xFFBE, 1, -61100),
  (0xFFC2, 0xFFC7, 1, -61025), (0xFFCA, 0xFFCF, 1, -61027), (0xFFD2, 0xFFD7, 1, -61029),
  (0xFFDA, 0xFFDC, 1, -61031), (0xFFE9, 0xFFEC, 1, -56921), (0x10400, 0x10427, 1, 40),
  (0x104B0, 0x104D3, 1, 40), (0x10570, 0x10594, 2, 39), (0x10571, 0x10579, 2, 39),
  (0x1057D, 0x10589, 2, 39), (0x1058D, 0x10591, 2, 39), (0x107B6, 0x107B8, 1, -67062),
  (0x10C80, 0x10CB2, 1, 64), (0x10D50, 0x10D65, 1, 32), (0x118A0, 0x118BF, 1, 32),
  (0x16E40, 0x16E5F, 1, 32), (0x16EA0, 0x16EB8, 1, 27), (0x1CCD6, 0x1CCEF, 1, -117877),
  (0x1CCF0, 0x1CCF9, 1, -117952), (0x1D400, 0x1D419, 1, -119711), (0x1D41A, 0x1D433, 1, -119737),
  (0x1D434, 0x1D44D, 1, -119763), (0x1D44E, 0x1D466, 2, -119789), (0x1D44F, 0x1D453, 2, -119789),
  (0x1D457, 0x1D467, 2, -119789), (0x1D468, 0x1D481, 1, -119815), (0x1D482, 0x1D49B, 1, -119841),
  (0x1D4A9, 0x1D4AC, 1, -119867), (0x1D4AE, 0x1D4B5, 1, -119867), (0x1D4B6, 0x1D4B9, 1, -119893),
  (0x1D4BB, 0x1D4CF, 2, -119893), (0x1D4BE, 0x1D4C2, 2, -119893), (0x1D4C6, 0x1D4CE, 2, -119893),
  (0x1D4D0, 0x1D4E9, 1, -119919), (0x1D4EA, 0x1D503, 1, -119945), (0x1D505, 0x1D509, 2, -119971),
  (0x1D50D, 0x1D514, 1, -119971), (0x1D516, 0x1D51C, 1, -119971), (0x1D51E, 0x1D537, 1, -119997),
  (0x1D539, 0x1D53D, 2, -120023), (0x1D53C, 0x1D546, 2, -120023), (0x1D54A, 0x1D550, 1, -120023),
  (0x1D552, 0x1D56B, 1, -120049), (0x1D56C, 0x1D585, 1, -120075), (0x1D586, 0x1D59F, 1, -120101),
  (0x1D5A0, 0x1D5B9, 1, -120127), (0x1D5BA, 0x1D5D3, 1, -120153), (0x1D5D4, 0x1D5ED, 1, -120179),
  (0x1D5EE, 0x1D607, 1, -120205), (0x1D608, 0x1D621, 1, -120231), (0x1D622, 0x1D63B, 1, -120257),
  (0x1D63C, 0x1D655, 1, -120283), (0x1D656, 0x1D66F, 1, -120309), (0x1D670, 0x1D689, 1, -120335),
  (0x1D68A, 0x1D6A3, 1, -120361), (0x1D6A8, 0x1D6B8, 1, -119543), (0x1D6BA, 0x1D6C0, 1, -119543),
  (0x1D6C2, 0x1D6D2, 1, -119569), (0x1D6D4, 0x1D6DA, 1, -119569), (0x1D6E2, 0x1D6F2, 1, -119601),
  (0x1D6F4, 0x1D6FA, 1, -119601), (0x1D6FC, 0x1D70C, 1, -119627), (0x1D70E, 0x1D714, 1, -119627),
  (0x1D71C, 0x1D72C, 1, -119659), (0x1D72E, 0x1D734, 1, -119659), (0x1D736, 0x1D746, 1, -119685),
  (0x1D748, 0x1D74E, 1, -119685), (0x1D756, 0x1D766, 1, -119717), (0x1D768, 0x1D76E, 1, -119717),
  (0x1D770, 0x1D780, 1, -119743), (0x1D782, 0x1D788, 1, -119743), (0x1D790, 0x1D7A0, 1, -119775),
  (0x1D7A2, 0x1D7A8, 1, -119775), (0x1D7AA, 0x1D7BA, 1, -119801), (0x1D7BC, 0x1D7C2, 1, -119801),
  (0x1D7CE, 0x1D7D7, 1, -120734), (0x1D7D8, 0x1D7E1, 1, -120744), (0x1D7E2, 0x1D7EB, 1, -120754),
  (0x1D7EC, 0x1D7F5, 1, -120764), (0x1D7F6, 0x1D7FF, 1, -120774), (0x1E030, 0x1E038, 1, -121856),
  (0x1E039, 0x1E03B, 1, -121855), (0x1E03C, 0x1E046, 1, -121854), (0x1E051, 0x1E059, 1, -121889),
  (0x1E05F, 0x1E064, 1, -121884), (0x1E900, 0x1E921, 1, 34), (0x1EE0A, 0x1EE0D, 1, -124871),
  (0x1EE2A, 0x1EE2D, 1, -124903), (0x1EE8B, 0x1EE8D, 1, -124999), (0x1EEAB, 0x1EEAD, 1, -125031),
  (0x1F130, 0x1F149, 1, -127183), (0x1FBF0, 0x1FBF9, 1, -129984)]

/-- Characters that become another one: the number of the first of several neighbours, and what becomes of
them. -/
def replacedTable : List (Nat × String) := [
  (0x00AA, "a"), (0x00B2, "23"), (0x00B5, "μ"), (0x00B9, "1o"), (0x0134, "ĵ"), (0x0136, "ķ"),
  (0x0178, "ÿ"), (0x017F, "s"), (0x0181, "ɓƃ"), (0x0184, "ƅ"), (0x0186, "ɔƈ"), (0x0189, "ɖɗƌ"),
  (0x018E, "ǝəɛƒ"), (0x0193, "ɠɣ"), (0x0196, "ɩɨƙ"), (0x019C, "ɯɲ"), (0x019F, "ɵ"), (0x01A6, "ʀƨ"),
  (0x01A9, "ʃ"), (0x01AC, "ƭ"), (0x01AE, "ʈư"), (0x01B1, "ʊʋƴ"), (0x01B5, "ƶ"), (0x01B7, "ʒƹ"),
  (0x01BC, "ƽ"), (0x01F4, "ǵ"), (0x01F6, "ƕƿ"), (0x0220, "ƞ"), (0x023A, "ⱥȼ"), (0x023D, "ƚⱦ"),
  (0x0241, "ɂ"), (0x0243, "ƀʉʌ"), (0x02B0, "hɦjrɹɻʁwy"), (0x02E0, "ɣlsxʕ"), (0x0345, "ι"),
  (0x0370, "ͱ"), (0x0372, "ͳ"), (0x0376, "ͷ"), (0x037F, "ϳ"), (0x0386, "ά"), (0x038C, "ό"),
  (0x038E, "ύώ"), (0x03CF, "ϗβθυύϋφπ"), (0x03F0, "κρσ"), (0x03F4, "θε"), (0x03F7, "ϸ"), (0x03F9, "σϻ"),
  (0x04C0, "ӏ"), (0x0F0C, "་"), (0x10C7, "ⴧ"), (0x10CD, "ⴭ"), (0x10FC, "ნ"),
  (0x1C80, "вдосттъѣꙋ\u1c8a"), (0x1D2C, "aæb"), (0x1D30, "d"), (0x1D32, "ǝ"),
  (0x1D3C, "oȣprtuwaɐɑᴂbdeəɛɜg"), (0x1D4F, "kmŋoɔᴖᴗptuᴝɯvᴥ"), (0x1D60, "φχiruvβγρφχ"), (0x1D78, "н"),
  (0x1D9B, "ɒcɕðɜfɟɡɥ"), (0x1DA7, "ᵻʝɭᶅʟɱɰ"), (0x1DB2, "ɸʂʃƫʉʊᴜʋʌz"), (0x1DBF, "θ"), (0x1E9B, "ṡ"),
  (0x1E9E, "ß"), (0x1FB8, "ᾰᾱὰά"), (0x1FC8, "ὲέὴή"), (0x1FD8, "ῐῑὶί"), (0x1FE8, "ῠῡὺύῥ"),
  (0x1FF8, "ὸόὼώ"), (0x2011, "‐"), (0x2070, "0i"), (0x207A, "+−=()n"), (0x208A, "+−=()"),
  (0x2090, "aeoxəh"), (0x209A, "pst"), (0x2102, "c"), (0x2107, "ɛ"), (0x210A, "ghhhhħiill"),
  (0x2115, "n"), (0x211C, "rr"), (0x2124, "z"), (0x2126, "ω"), (0x2128, "z"), (0x212A, "kåbc"),
  (0x212F, "eefⅎmo"), (0x2139, "i"), (0x213C, "πγγπ∑"), (0x2145, "ddeij"), (0x2160, "i"),
  (0x2164, "v"), (0x2169, "x"), (0x216C, "lcdmi"), (0x2174, "v"), (0x2179, "x"), (0x217C, "lcdm"),
  (0x2183, "ↄ"), (0x24EA, "0"), (0x2C60, "ⱡ"), (0x2C62, "ɫᵽɽ"), (0x2C6D, "ɑɱɐɒ"), (0x2C72, "ⱳ"),
  (0x2C75, "ⱶ"), (0x2C7C, "jvȿɀ"), (0x2CEB, "ⳬ"), (0x2CED, "ⳮ"), (0x2CF2, "ⳳ"), (0x2D6F, "ⵡ"),
  (0x2E9F, "母"), (0x2EF3, "龟"),
  (0x2F00, "一丨丶丿乙亅二亠人儿入八冂冖冫几凵刀力勹匕匚匸十卜卩厂厶又口囗土士夂夊夕大女子宀寸小尢尸屮山巛工己巾干幺广廴廾弋弓彐彡彳心戈戶手支攴文斗斤方无日曰月木欠止歹殳毋比毛氏气"),
  (0x2F54, "水火爪父爻爿片牙牛犬玄玉瓜瓦甘生用田疋疒癶白皮皿目矛矢石示禸禾穴立竹米糸缶网羊羽老而耒耳聿肉臣自至臼舌舛舟艮色艸虍虫血行衣襾見角言谷豆豕豸貝赤走足身車辛辰辵邑酉釆里金長"),
  (0x2FA8, "門阜隶隹雨靑非面革韋韭音頁風飛食首香馬骨高髟鬥鬯鬲鬼魚鳥鹵鹿麥麻黃黍黑黹黽鼎鼓鼠鼻齊齒龍龜龠"), (0x3002, "."), (0x3036, "〒"),
  (0x3038, "十卄卅"), (0x3131, "ᄀᄁᆪᄂᆬᆭ"), (0x3140, "ᄚ"), (0x3144, "ᄡ"), (0x3165, "ᄔᄕᇇᇈᇌᇎᇓᇗᇙᄜᇝᇟᄝᄞᄠᄢᄣᄧᄩ"),
  (0x317D, "ᄲᄶᅀᅇᅌᇱᇲ"), (0x3187, "ᆄᆅᆈᆑᆒᆔᆞᆡ"), (0x3192, "一二三四上中下甲乙丙丁天地人"), (0x3244, "問幼文箏"),
  (0x3260, "ᄀᄂᄃ"), (0x3266, "ᄉᄋᄌ"), (0x326E, "가나다라마바사아자차카타파하"), (0x327E, "우"),
  (0x3280, "一二三四五六七八九十月火水木金土日株有社名特財祝労秘男女適優印注項休写正上中下左右医宗学監企資協夜"), (0x32D0, "アイウエオカキクケコサシスセソタチツテト"),
  (0x32EA, "ヒフヘホ"), (0x32F3, "ヤユ"), (0xA69C, "ъь"), (0xA770, "ꝯ"), (0xA779, "ꝺ"), (0xA77B, "ꝼ"),
  (0xA77D, "ᵹ"), (0xA78B, "ꞌ"), (0xA78D, "ɥ"), (0xA790, "ꞑ"), (0xA792, "ꞓ"), (0xA7AA, "ɦɜɡɬɪ"),
  (0xA7B0, "ʞʇʝꭓ"), (0xA7C4, "ꞔʂᶎꟈ"), (0xA7C9, "ꟊ"), (0xA7CB, "ɤ"), (0xA7DC, "ƛ"), (0xA7F1, "scfqꟶ"),
  (0xA7F8, "ħœ"), (0xAB5C, "ꜧꬷɫꭒ"), (0xAB69, "ʍ"), (0xFB20, "\u05e2\u05d0\u05d3\u05d4"),
  (0xFB27, "\u05e8\u05ea+"),
  (0xFB50, "\u0671\u0671\u067b\u067b\u067b\u067b\u067e\u067e\u067e\u067e\u0680\u0680\u0680\u0680"),
  (0xFB5E, "\u067a\u067a\u067a\u067a\u067f\u067f\u067f\u067f\u0679\u0679\u0679\u0679\u06a4\u06a4"),
  (0xFB6C, "\u06a4\u06a4\u06a6\u06a6\u06a6\u06a6\u0684\u0684\u0684\u0684\u0683\u0683\u0683\u0683"),
  (0xFB7A, "\u0686\u0686\u0686\u0686\u0687\u0687\u0687\u0687\u068d\u068d\u068c\u068c\u068e\u068e"),
  (0xFB88, "\u0688\u0688\u0698\u0698\u0691\u0691\u06a9\u06a9\u06a9\u06a9\u06af\u06af\u06af\u06af"),
  (0xFB96, "\u06b3\u06b3\u06b3\u06b3\u06b1\u06b1\u06b1\u06b1\u06ba\u06ba\u06bb\u06bb\u06bb\u06bb"),
  (0xFBA4, "\u06c0\u06c0\u06c1\u06c1\u06c1\u06c1\u06be\u06be\u06be\u06be\u06d2\u06d2\u06d3\u06d3"),
  (0xFBD3, "\u06ad\u06ad\u06ad\u06ad\u06c7\u06c7\u06c6\u06c6\u06c8\u06c8"),
  (0xFBDE, "\u06cb\u06cb\u06c5\u06c5\u06c9\u06c9\u06d0\u06d0\u06d0\u06d0\u0649\u0649"),
  (0xFBFC, "\u06cc\u06cc\u06cc\u06cc"), (0xFE10, ",、"), (0xFE14, ";!"), (0xFE17, "〖〗"),
  (0xFE31, "—–__()\x7b\x7d〔〕【】《》〈〉"), (0xFE4D, "___,、"), (0xFE54, ";"), (0xFE57, "!—()\x7b\x7d〔〕"),
  (0xFE60, "&*+-"), (0xFE66, "="), (0xFE69, "$"),
  (0xFE80, "\u0621\u0622\u0622\u0623\u0623\u0624\u0624\u0625\u0625\u0626\u0626\u0626\u0626\u0627"),
  (0xFE8E, "\u0627\u0628\u0628\u0628\u0628\u0629\u0629\u062a\u062a\u062a\u062a\u062b\u062b\u062b"),
  (0xFE9C, "\u062b\u062c\u062c\u062c\u062c\u062d\u062d\u062d\u062d\u062e\u062e\u062e\u062e\u062f"),
  (0xFEAA, "\u062f\u0630\u0630\u0631\u0631\u0632\u0632\u0633\u0633\u0633\u0633\u0634\u0634\u0634"),
  (0xFEB8, "\u0634\u0635\u0635\u0635\u0635\u0636\u0636\u0636\u0636\u0637\u0637\u0637\u0637\u0638"),
  (0xFEC6, "\u0638\u0638\u0638\u0639\u0639\u0639\u0639\u063a\u063a\u063a\u063a\u0641\u0641\u0641"),
  (0xFED4, "\u0641\u0642\u0642\u0642\u0642\u0643\u0643\u0643\u0643\u0644\u0644\u0644\u0644\u0645"),
  (0xFEE2, "\u0645\u0645\u0645\u0646\u0646\u0646\u0646\u0647\u0647\u0647\u0647\u0648\u0648\u0649"),
  (0xFEF0, "\u0649\u064a\u064a\u064a\u064a"), (0xFF01, "!"),
  (0xFF5D, "\x7d~⦅⦆.「」、・ヲァィゥェォャュョッーアイウエオカキクケコサシスセソタチツテト"), (0xFF8B, "ヒフヘホ"), (0xFF94, "ヤユ"),
  (0xFF9C, "ワン\u3099\u309a"), (0xFFA1, "ᄀᄁᆪᄂᆬᆭ"), (0xFFB0, "ᄚ"), (0xFFB4, "ᄡ"), (0xFFE0, "¢£¬"),
  (0xFFE4, "¦¥₩"), (0xFFE8, "│"), (0xFFED, "■○"), (0x10595, "𐖼"), (0x10781, "ːˑæʙɓ"),
  (0x10787, "ʣꭦʥʤɖɗᶑɘɞʩɤɢɠʛħʜɧʄʪʫɬ𝼄ꞎɮ𝼅ʎ𝼆øɶɷqɺ𝼈ɽɾʀʨʦꭧʧʈⱱ"), (0x107B2, "ʏʡʢʘ"), (0x107B9, "𝼊𝼞"),
  (0x1D49C, "a"), (0x1D49E, "cd"), (0x1D4A2, "g"), (0x1D4A5, "jk"), (0x1D504, "a"), (0x1D508, "e"),
  (0x1D50A, "g"), (0x1D538, "a"), (0x1D541, "j"), (0x1D543, "l"), (0x1D6A4, "ıȷ"), (0x1D6B9, "θ"),
  (0x1D6C1, "∇"), (0x1D6D3, "σ"), (0x1D6DB, "∂εθκφρπ"), (0x1D6F3, "θ"), (0x1D6FB, "∇"), (0x1D70D, "σ"),
  (0x1D715, "∂εθκφρπ"), (0x1D72D, "θ"), (0x1D735, "∇"), (0x1D747, "σ"), (0x1D74F, "∂εθκφρπ"),
  (0x1D767, "θ"), (0x1D76F, "∇"), (0x1D781, "σ"), (0x1D789, "∂εθκφρπ"), (0x1D7A1, "θ"), (0x1D7A9, "∇"),
  (0x1D7BB, "σ"), (0x1D7C3, "∂εθκφρπϝϝ"), (0x1E047, "ыэюꚉәіјөүӏ"), (0x1E05A, "клопс"),
  (0x1E065, "ъыґіѕџҫꙑұ"), (0x1EE00, "\u0627\u0628\u062c\u062f"),
  (0x1EE05, "\u0648\u0632\u062d\u0637\u064a"),
  (0x1EE0E, "\u0633\u0639\u0641\u0635\u0642\u0631\u0634\u062a\u062b\u062e\u0630\u0636\u0638\u063a"),
  (0x1EE1C, "\u066e\u06ba\u06a1\u066f"), (0x1EE21, "\u0628\u062c"), (0x1EE24, "\u0647"),
  (0x1EE27, "\u062d"), (0x1EE29, "\u064a"), (0x1EE2E, "\u0633\u0639\u0641\u0635\u0642"),
  (0x1EE34, "\u0634\u062a\u062b\u062e"), (0x1EE39, "\u0636"), (0x1EE3B, "\u063a"), (0x1EE42, "\u062c"),
  (0x1EE47, "\u062d"), (0x1EE49, "\u064a"), (0x1EE4B, "\u0644"), (0x1EE4D, "\u0646\u0633\u0639"),
  (0x1EE51, "\u0635\u0642"), (0x1EE54, "\u0634"), (0x1EE57, "\u062e"), (0x1EE59, "\u0636"),
  (0x1EE5B, "\u063a"), (0x1EE5D, "\u06ba"), (0x1EE5F, "\u066f"), (0x1EE61, "\u0628\u062c"),
  (0x1EE64, "\u0647"), (0x1EE67, "\u062d\u0637\u064a\u0643"),
  (0x1EE6C, "\u0645\u0646\u0633\u0639\u0641\u0635\u0642"), (0x1EE74, "\u0634\u062a\u062b\u062e"),
  (0x1EE79, "\u0636\u0638\u063a\u066e"), (0x1EE7E, "\u06a1"),
  (0x1EE80, "\u0627\u0628\u062c\u062f\u0647\u0648\u0632\u062d\u0637\u064a"),
  (0x1EE8E, "\u0633\u0639\u0641\u0635\u0642\u0631\u0634\u062a\u062b\u062e\u0630\u0636\u0638\u063a"),
  (0x1EEA1, "\u0628\u062c\u062f"), (0x1EEA5, "\u0648\u0632\u062d\u0637\u064a"),
  (0x1EEAE, "\u0633\u0639\u0641\u0635\u0642\u0631\u0634\u062a\u062b\u062e\u0630\u0636\u0638\u063a"),
  (0x1F12B, "cr"), (0x1F202, "サ"), (0x1F210, "手字双デ二多解天交映無料前後再新初終生販声吹演投捕一三遊左中右指走打禁空合満有月申割営配"),
  (0x1F250, "得可")]

/-- Characters that become several others: the number of the first of several neighbours, and what becomes of
them, with blanks in between. -/
def expandedTable : List (Nat × String) := [
  (0x00BC, "1⁄4\u00201⁄2\u00203⁄4"), (0x0130, "i\u0307"), (0x0132, "ij\u0020ij"),
  (0x013F, "l·\u0020l·"), (0x0149, "ʼn"),
  (0x01C4, "dž\u0020dž\u0020dž\u0020lj\u0020lj\u0020lj\u0020nj\u0020nj\u0020nj"),
  (0x01F1, "dz\u0020dz\u0020dz"), (0x0587, "եւ"),
  (0x0675, "\u0627\u0674\u0020\u0648\u0674\u0020\u06c7\u0674\u0020\u064a\u0674"), (0x0E33, "\u0e4dา"),
  (0x0EB3, "\u0ecdາ"), (0x0EDC, "ຫນ\u0020ຫມ"), (0x0F77, "\u0fb2\u0f71\u0f80"),
  (0x0F79, "\u0fb3\u0f71\u0f80"), (0x1E9A, "aʾ"),
  (0x1F80, "ἀι\u0020ἁι\u0020ἂι\u0020ἃι\u0020ἄι\u0020ἅι\u0020ἆι\u0020ἇι\u0020ἀι\u0020ἁι"),
  (0x1F8A, "ἂι\u0020ἃι\u0020ἄι\u0020ἅι\u0020ἆι\u0020ἇι\u0020ἠι\u0020ἡι\u0020ἢι\u0020ἣι"),
  (0x1F94, "ἤι\u0020ἥι\u0020ἦι\u0020ἧι\u0020ἠι\u0020ἡι\u0020ἢι\u0020ἣι\u0020ἤι\u0020ἥι"),
  (0x1F9E, "ἦι\u0020ἧι\u0020ὠι\u0020ὡι\u0020ὢι\u0020ὣι\u0020ὤι\u0020ὥι\u0020ὦι\u0020ὧι"),
  (0x1FA8, "ὠι\u0020ὡι\u0020ὢι\u0020ὣι\u0020ὤι\u0020ὥι\u0020ὦι\u0020ὧι"),
  (0x1FB2, "ὰι\u0020αι\u0020άι"), (0x1FB7, "ᾶι"), (0x1FBC, "αι"), (0x1FC2, "ὴι\u0020ηι\u0020ήι"),
  (0x1FC7, "ῆι"), (0x1FCC, "ηι"), (0x1FF2, "ὼι\u0020ωι\u0020ώι"), (0x1FF7, "ῶι"), (0x1FFC, "ωι"),
  (0x2033, "′′\u0020′′′"), (0x2036, "‵‵\u0020‵‵‵"), (0x203C, "!!"), (0x2057, "′′′′"), (0x20A8, "rs"),
  (0x2103, "°c"), (0x2109, "°f"), (0x2116, "no"), (0x2120, "sm\u0020tel\u0020tm"), (0x213B, "fax"),
  (0x2150, "1⁄7\u00201⁄9\u00201⁄10\u00201⁄3\u00202⁄3\u00201⁄5\u00202⁄5\u00203⁄5\u00204⁄5"),
  (0x2159, "1⁄6\u00205⁄6\u00201⁄8\u00203⁄8\u00205⁄8\u00207⁄8\u00201⁄"),
  (0x2161, "ii\u0020iii\u0020iv"), (0x2165, "vi\u0020vii\u0020viii\u0020ix"), (0x216A, "xi\u0020xii"),
  (0x2171, "ii\u0020iii\u0020iv"), (0x2175, "vi\u0020vii\u0020viii\u0020ix"), (0x217A, "xi\u0020xii"),
  (0x2189, "0⁄3"), (0x222C, "∫∫\u0020∫∫∫"), (0x222F, "∮∮\u0020∮∮∮"),
  (0x2469, "10\u002011\u002012\u002013\u002014\u002015\u002016\u002017\u002018\u002019"),
  (0x2473, "20\u0020(1)\u0020(2)\u0020(3)\u0020(4)\u0020(5)\u0020(6)\u0020(7)\u0020(8)"),
  (0x247C, "(9)\u0020(10)\u0020(11)\u0020(12)\u0020(13)\u0020(14)\u0020(15)\u0020(16)"),
  (0x2484, "(17)\u0020(18)\u0020(19)\u0020(20)"),
  (0x249C, "(a)\u0020(b)\u0020(c)\u0020(d)\u0020(e)\u0020(f)\u0020(g)\u0020(h)\u0020(i)"),
  (0x24A5, "(j)\u0020(k)\u0020(l)\u0020(m)\u0020(n)\u0020(o)\u0020(p)\u0020(q)\u0020(r)"),
  (0x24AE, "(s)\u0020(t)\u0020(u)\u0020(v)\u0020(w)\u0020(x)\u0020(y)\u0020(z)"), (0x2A0C, "∫∫∫∫"),
  (0x2A75, "==\u0020==="), (0x309F, "より"), (0x30FF, "コト"),
  (0x3200, "(ᄀ)\u0020(ᄂ)\u0020(ᄃ)\u0020(ᄅ)\u0020(ᄆ)\u0020(ᄇ)\u0020(ᄉ)\u0020(ᄋ)\u0020(ᄌ)"),
  (0x3209, "(ᄎ)\u0020(ᄏ)\u0020(ᄐ)\u0020(ᄑ)\u0020(ᄒ)\u0020(가)\u0020(나)\u0020(다)\u0020(라)"),
  (0x3212, "(마)\u0020(바)\u0020(사)\u0020(아)\u0020(자)\u0020(차)\u0020(카)\u0020(타)\u0020(파)"),
  (0x321B, "(하)\u0020(주)\u0020(오전)\u0020(오후)"),
  (0x3220, "(一)\u0020(二)\u0020(三)\u0020(四)\u0020(五)\u0020(六)\u0020(七)\u0020(八)\u0020(九)"),
  (0x3229, "(十)\u0020(月)\u0020(火)\u0020(水)\u0020(木)\u0020(金)\u0020(土)\u0020(日)\u0020(株)"),
  (0x3232, "(有)\u0020(社)\u0020(名)\u0020(特)\u0020(財)\u0020(祝)\u0020(労)\u0020(代)\u0020(呼)"),
  (0x323B, "(学)\u0020(監)\u0020(企)\u0020(資)\u0020(協)\u0020(祭)\u0020(休)\u0020(自)\u0020(至)"),
  (0x3250, "pte\u002021\u002022\u002023\u002024\u002025\u002026\u002027\u002028\u002029"),
  (0x325A, "30\u002031\u002032\u002033\u002034\u002035"), (0x327C, "참고\u0020주의"),
  (0x32B1, "36\u002037\u002038\u002039\u002040\u002041\u002042\u002043\u002044\u002045"),
  (0x32BB, "46\u002047\u002048\u002049\u002050\u00201月\u00202月\u00203月\u00204月\u00205月"),
  (0x32C5, "6月\u00207月\u00208月\u00209月\u002010月\u002011月\u002012月\u0020hg\u0020erg\u0020ev"),
  (0x32CF, "ltd"), (0x32FF, "令和\u0020アパート\u0020アルファ\u0020アンペア\u0020アール\u0020イニング\u0020インチ\u0020ウォン"),
  (0x3307, "エスクード\u0020エーカー\u0020オンス\u0020オーム\u0020カイリ\u0020カラット\u0020カロリー\u0020ガロン"),
  (0x330F, "ガンマ\u0020ギガ\u0020ギニー\u0020キュリー\u0020ギルダー\u0020キロ\u0020キログラム\u0020キロメートル"),
  (0x3317, "キロワット\u0020グラム\u0020グラムトン\u0020クルゼイロ\u0020クローネ\u0020ケース\u0020コルナ\u0020コーポ"),
  (0x331F, "サイクル\u0020サンチーム\u0020シリング\u0020センチ\u0020セント\u0020ダース\u0020デシ\u0020ドル\u0020トン"),
  (0x3328, "ナノ\u0020ノット\u0020ハイツ\u0020パーセント\u0020パーツ\u0020バーレル\u0020ピアストル\u0020ピクル\u0020ピコ"),
  (0x3331, "ビル\u0020ファラッド\u0020フィート\u0020ブッシェル\u0020フラン\u0020ヘクタール\u0020ペソ\u0020ペニヒ"),
  (0x3339, "ヘルツ\u0020ペンス\u0020ページ\u0020ベータ\u0020ポイント\u0020ボルト\u0020ホン\u0020ポンド\u0020ホール"),
  (0x3342, "ホーン\u0020マイクロ\u0020マイル\u0020マッハ\u0020マルク\u0020マンション\u0020ミクロン\u0020ミリ"),
  (0x334A, "ミリバール\u0020メガ\u0020メガトン\u0020メートル\u0020ヤード\u0020ヤール\u0020ユアン\u0020リットル\u0020リラ"),
  (0x3353, "ルピー\u0020ルーブル\u0020レム\u0020レントゲン\u0020ワット\u00200点\u00201点\u00202点\u00203点"),
  (0x335C, "4点\u00205点\u00206点\u00207点\u00208点\u00209点\u002010点\u002011点\u002012点\u002013点"),
  (0x3366, "14点\u002015点\u002016点\u002017点\u002018点\u002019点\u002020点\u002021点\u002022点"),
  (0x336F, "23点\u002024点\u0020hpa\u0020da\u0020au\u0020bar\u0020ov\u0020pc\u0020dm"),
  (0x3378, "dm2\u0020dm3\u0020iu\u0020平成\u0020昭和\u0020大正\u0020明治\u0020株式会社\u0020pa\u0020na"),
  (0x3382, "μa\u0020ma\u0020ka\u0020kb\u0020mb\u0020gb\u0020cal\u0020kcal\u0020pf\u0020nf"),
  (0x338C, "μf\u0020μg\u0020mg\u0020kg\u0020hz\u0020khz\u0020mhz\u0020ghz\u0020thz\u0020μl"),
  (0x3396, "ml\u0020dl\u0020kl\u0020fm\u0020nm\u0020μm\u0020mm\u0020cm\u0020km\u0020mm2"),
  (0x33A0, "cm2\u0020m2\u0020km2\u0020mm3\u0020cm3\u0020m3\u0020km3\u0020m∕s\u0020m∕s2"),
  (0x33A9, "pa\u0020kpa\u0020mpa\u0020gpa\u0020rad\u0020rad∕s\u0020rad∕s2\u0020ps\u0020ns"),
  (0x33B2, "μs\u0020ms\u0020pv\u0020nv\u0020μv\u0020mv\u0020kv\u0020mv\u0020pw\u0020nw"),
  (0x33BC, "μw\u0020mw\u0020kw\u0020mw\u0020kω\u0020mω"), (0x33C3, "bq\u0020cc\u0020cd\u0020c∕kg"),
  (0x33C8, "db\u0020gy\u0020ha\u0020hp\u0020in\u0020kk\u0020km\u0020kt\u0020lm\u0020ln"),
  (0x33D2, "log\u0020lx\u0020mb\u0020mil\u0020mol\u0020ph"),
  (0x33D9, "ppm\u0020pr\u0020sr\u0020sv\u0020wb\u0020v∕m\u0020a∕m\u00201日\u00202日\u00203日"),
  (0x33E3, "4日\u00205日\u00206日\u00207日\u00208日\u00209日\u002010日\u002011日\u002012日\u002013日"),
  (0x33ED, "14日\u002015日\u002016日\u002017日\u002018日\u002019日\u002020日\u002021日\u002022日"),
  (0x33F6, "23日\u002024日\u002025日\u002026日\u002027日\u002028日\u002029日\u002030日\u002031日"),
  (0x33FF, "gal"), (0xFB00, "ff\u0020fi\u0020fl\u0020ffi\u0020ffl\u0020st\u0020st"),
  (0xFB13, "մն\u0020մե\u0020մի\u0020վն\u0020մխ"), (0xFB4F, "\u05d0\u05dc"), (0xFBDD, "\u06c7\u0674"),
  (0xFBEA, "\u0626\u0627\u0020\u0626\u0627\u0020\u0626\u06d5\u0020\u0626\u06d5"),
  (0xFBEE, "\u0626\u0648\u0020\u0626\u0648\u0020\u0626\u06c7\u0020\u0626\u06c7"),
  (0xFBF2, "\u0626\u06c6\u0020\u0626\u06c6\u0020\u0626\u06c8\u0020\u0626\u06c8"),
  (0xFBF6, "\u0626\u06d0\u0020\u0626\u06d0\u0020\u0626\u06d0\u0020\u0626\u0649"),
  (0xFBFA, "\u0626\u0649\u0020\u0626\u0649"),
  (0xFC00, "\u0626\u062c\u0020\u0626\u062d\u0020\u0626\u0645\u0020\u0626\u0649"),
  (0xFC04, "\u0626\u064a\u0020\u0628\u062c\u0020\u0628\u062d\u0020\u0628\u062e"),
  (0xFC08, "\u0628\u0645\u0020\u0628\u0649\u0020\u0628\u064a\u0020\u062a\u062c"),
  (0xFC0C, "\u062a\u062d\u0020\u062a\u062e\u0020\u062a\u0645\u0020\u062a\u0649"),
  (0xFC10, "\u062a\u064a\u0020\u062b\u062c\u0020\u062b\u0645\u0020\u062b\u0649"),
  (0xFC14, "\u062b\u064a\u0020\u062c\u062d\u0020\u062c\u0645\u0020\u062d\u062c"),
  (0xFC18, "\u062d\u0645\u0020\u062e\u062c\u0020\u062e\u062d\u0020\u062e\u0645"),
  (0xFC1C, "\u0633\u062c\u0020\u0633\u062d\u0020\u0633\u062e\u0020\u0633\u0645"),
  (0xFC20, "\u0635\u062d\u0020\u0635\u0645\u0020\u0636\u062c\u0020\u0636\u062d"),
  (0xFC24, "\u0636\u062e\u0020\u0636\u0645\u0020\u0637\u062d\u0020\u0637\u0645"),
  (0xFC28, "\u0638\u0645\u0020\u0639\u062c\u0020\u0639\u0645\u0020\u063a\u062c"),
  (0xFC2C, "\u063a\u0645\u0020\u0641\u062c\u0020\u0641\u062d\u0020\u0641\u062e"),
  (0xFC30, "\u0641\u0645\u0020\u0641\u0649\u0020\u0641\u064a\u0020\u0642\u062d"),
  (0xFC34, "\u0642\u0645\u0020\u0642\u0649\u0020\u0642\u064a\u0020\u0643\u0627"),
  (0xFC38, "\u0643\u062c\u0020\u0643\u062d\u0020\u0643\u062e\u0020\u0643\u0644"),
  (0xFC3C, "\u0643\u0645\u0020\u0643\u0649\u0020\u0643\u064a\u0020\u0644\u062c"),
  (0xFC40, "\u0644\u062d\u0020\u0644\u062e\u0020\u0644\u0645\u0020\u0644\u0649"),
  (0xFC44, "\u0644\u064a\u0020\u0645\u062c\u0020\u0645\u062d\u0020\u0645\u062e"),
  (0xFC48, "\u0645\u0645\u0020\u0645\u0649\u0020\u0645\u064a\u0020\u0646\u062c"),
  (0xFC4C, "\u0646\u062d\u0020\u0646\u062e\u0020\u0646\u0645\u0020\u0646\u0649"),
  (0xFC50, "\u0646\u064a\u0020\u0647\u062c\u0020\u0647\u0645\u0020\u0647\u0649"),
  (0xFC54, "\u0647\u064a\u0020\u064a\u062c\u0020\u064a\u062d\u0020\u064a\u062e"),
  (0xFC58, "\u064a\u0645\u0020\u064a\u0649\u0020\u064a\u064a\u0020\u0630\u0670"),
  (0xFC5C, "\u0631\u0670\u0020\u0649\u0670"),
  (0xFC64, "\u0626\u0631\u0020\u0626\u0632\u0020\u0626\u0645\u0020\u0626\u0646"),
  (0xFC68, "\u0626\u0649\u0020\u0626\u064a\u0020\u0628\u0631\u0020\u0628\u0632"),
  (0xFC6C, "\u0628\u0645\u0020\u0628\u0646\u0020\u0628\u0649\u0020\u0628\u064a"),
  (0xFC70, "\u062a\u0631\u0020\u062a\u0632\u0020\u062a\u0645\u0020\u062a\u0646"),
  (0xFC74, "\u062a\u0649\u0020\u062a\u064a\u0020\u062b\u0631\u0020\u062b\u0632"),
  (0xFC78, "\u062b\u0645\u0020\u062b\u0646\u0020\u062b\u0649\u0020\u062b\u064a"),
  (0xFC7C, "\u0641\u0649\u0020\u0641\u064a\u0020\u0642\u0649\u0020\u0642\u064a"),
  (0xFC80, "\u0643\u0627\u0020\u0643\u0644\u0020\u0643\u0645\u0020\u0643\u0649"),
  (0xFC84, "\u0643\u064a\u0020\u0644\u0645\u0020\u0644\u0649\u0020\u0644\u064a"),
  (0xFC88, "\u0645\u0627\u0020\u0645\u0645\u0020\u0646\u0631\u0020\u0646\u0632"),
  (0xFC8C, "\u0646\u0645\u0020\u0646\u0646\u0020\u0646\u0649\u0020\u0646\u064a"),
  (0xFC90, "\u0649\u0670\u0020\u064a\u0631\u0020\u064a\u0632\u0020\u064a\u0645"),
  (0xFC94, "\u064a\u0646\u0020\u064a\u0649\u0020\u064a\u064a\u0020\u0626\u062c"),
  (0xFC98, "\u0626\u062d\u0020\u0626\u062e\u0020\u0626\u0645\u0020\u0626\u0647"),
  (0xFC9C, "\u0628\u062c\u0020\u0628\u062d\u0020\u0628\u062e\u0020\u0628\u0645"),
  (0xFCA0, "\u0628\u0647\u0020\u062a\u062c\u0020\u062a\u062d\u0020\u062a\u062e"),
  (0xFCA4, "\u062a\u0645\u0020\u062a\u0647\u0020\u062b\u0645\u0020\u062c\u062d"),
  (0xFCA8, "\u062c\u0645\u0020\u062d\u062c\u0020\u062d\u0645\u0020\u062e\u062c"),
  (0xFCAC, "\u062e\u0645\u0020\u0633\u062c\u0020\u0633\u062d\u0020\u0633\u062e"),
  (0xFCB0, "\u0633\u0645\u0020\u0635\u062d\u0020\u0635\u062e\u0020\u0635\u0645"),
  (0xFCB4, "\u0636\u062c\u0020\u0636\u062d\u0020\u0636\u062e\u0020\u0636\u0645"),
  (0xFCB8, "\u0637\u062d\u0020\u0638\u0645\u0020\u0639\u062c\u0020\u0639\u0645"),
  (0xFCBC, "\u063a\u062c\u0020\u063a\u0645\u0020\u0641\u062c\u0020\u0641\u062d"),
  (0xFCC0, "\u0641\u062e\u0020\u0641\u0645\u0020\u0642\u062d\u0020\u0642\u0645"),
  (0xFCC4, "\u0643\u062c\u0020\u0643\u062d\u0020\u0643\u062e\u0020\u0643\u0644"),
  (0xFCC8, "\u0643\u0645\u0020\u0644\u062c\u0020\u0644\u062d\u0020\u0644\u062e"),
  (0xFCCC, "\u0644\u0645\u0020\u0644\u0647\u0020\u0645\u062c\u0020\u0645\u062d"),
  (0xFCD0, "\u0645\u062e\u0020\u0645\u0645\u0020\u0646\u062c\u0020\u0646\u062d"),
  (0xFCD4, "\u0646\u062e\u0020\u0646\u0645\u0020\u0646\u0647\u0020\u0647\u062c"),
  (0xFCD8, "\u0647\u0645\u0020\u0647\u0670\u0020\u064a\u062c\u0020\u064a\u062d"),
  (0xFCDC, "\u064a\u062e\u0020\u064a\u0645\u0020\u064a\u0647\u0020\u0626\u0645"),
  (0xFCE0, "\u0626\u0647\u0020\u0628\u0645\u0020\u0628\u0647\u0020\u062a\u0645"),
  (0xFCE4, "\u062a\u0647\u0020\u062b\u0645\u0020\u062b\u0647\u0020\u0633\u0645"),
  (0xFCE8, "\u0633\u0647\u0020\u0634\u0645\u0020\u0634\u0647\u0020\u0643\u0644"),
  (0xFCEC, "\u0643\u0645\u0020\u0644\u0645\u0020\u0646\u0645\u0020\u0646\u0647"),
  (0xFCF0, "\u064a\u0645\u0020\u064a\u0647\u0020\u0640\u064e\u0651\u0020\u0640\u064f\u0651"),
  (0xFCF4, "\u0640\u0650\u0651\u0020\u0637\u0649\u0020\u0637\u064a\u0020\u0639\u0649"),
  (0xFCF8, "\u0639\u064a\u0020\u063a\u0649\u0020\u063a\u064a\u0020\u0633\u0649"),
  (0xFCFC, "\u0633\u064a\u0020\u0634\u0649\u0020\u0634\u064a\u0020\u062d\u0649"),
  (0xFD00, "\u062d\u064a\u0020\u062c\u0649\u0020\u062c\u064a\u0020\u062e\u0649"),
  (0xFD04, "\u062e\u064a\u0020\u0635\u0649\u0020\u0635\u064a\u0020\u0636\u0649"),
  (0xFD08, "\u0636\u064a\u0020\u0634\u062c\u0020\u0634\u062d\u0020\u0634\u062e"),
  (0xFD0C, "\u0634\u0645\u0020\u0634\u0631\u0020\u0633\u0631\u0020\u0635\u0631"),
  (0xFD10, "\u0636\u0631\u0020\u0637\u0649\u0020\u0637\u064a\u0020\u0639\u0649"),
  (0xFD14, "\u0639\u064a\u0020\u063a\u0649\u0020\u063a\u064a\u0020\u0633\u0649"),
  (0xFD18, "\u0633\u064a\u0020\u0634\u0649\u0020\u0634\u064a\u0020\u062d\u0649"),
  (0xFD1C, "\u062d\u064a\u0020\u062c\u0649\u0020\u062c\u064a\u0020\u062e\u0649"),
  (0xFD20, "\u062e\u064a\u0020\u0635\u0649\u0020\u0635\u064a\u0020\u0636\u0649"),
  (0xFD24, "\u0636\u064a\u0020\u0634\u062c\u0020\u0634\u062d\u0020\u0634\u062e"),
  (0xFD28, "\u0634\u0645\u0020\u0634\u0631\u0020\u0633\u0631\u0020\u0635\u0631"),
  (0xFD2C, "\u0636\u0631\u0020\u0634\u062c\u0020\u0634\u062d\u0020\u0634\u062e"),
  (0xFD30, "\u0634\u0645\u0020\u0633\u0647\u0020\u0634\u0647\u0020\u0637\u0645"),
  (0xFD34, "\u0633\u062c\u0020\u0633\u062d\u0020\u0633\u062e\u0020\u0634\u062c"),
  (0xFD38, "\u0634\u062d\u0020\u0634\u062e\u0020\u0637\u0645\u0020\u0638\u0645"),
  (0xFD3C, "\u0627\u064b\u0020\u0627\u064b"),
  (0xFD50, "\u062a\u062c\u0645\u0020\u062a\u062d\u062c\u0020\u062a\u062d\u062c"),
  (0xFD53, "\u062a\u062d\u0645\u0020\u062a\u062e\u0645\u0020\u062a\u0645\u062c"),
  (0xFD56, "\u062a\u0645\u062d\u0020\u062a\u0645\u062e\u0020\u062c\u0645\u062d"),
  (0xFD59, "\u062c\u0645\u062d\u0020\u062d\u0645\u064a\u0020\u062d\u0645\u0649"),
  (0xFD5C, "\u0633\u062d\u062c\u0020\u0633\u062c\u062d\u0020\u0633\u062c\u0649"),
  (0xFD5F, "\u0633\u0645\u062d\u0020\u0633\u0645\u062d\u0020\u0633\u0645\u062c"),
  (0xFD62, "\u0633\u0645\u0645\u0020\u0633\u0645\u0645\u0020\u0635\u062d\u062d"),
  (0xFD65, "\u0635\u062d\u062d\u0020\u0635\u0645\u0645\u0020\u0634\u062d\u0645"),
  (0xFD68, "\u0634\u062d\u0645\u0020\u0634\u062c\u064a\u0020\u0634\u0645\u062e"),
  (0xFD6B, "\u0634\u0645\u062e\u0020\u0634\u0645\u0645\u0020\u0634\u0645\u0645"),
  (0xFD6E, "\u0636\u062d\u0649\u0020\u0636\u062e\u0645\u0020\u0636\u062e\u0645"),
  (0xFD71, "\u0637\u0645\u062d\u0020\u0637\u0645\u062d\u0020\u0637\u0645\u0645"),
  (0xFD74, "\u0637\u0645\u064a\u0020\u0639\u062c\u0645\u0020\u0639\u0645\u0645"),
  (0xFD77, "\u0639\u0645\u0645\u0020\u0639\u0645\u0649\u0020\u063a\u0645\u0645"),
  (0xFD7A, "\u063a\u0645\u064a\u0020\u063a\u0645\u0649\u0020\u0641\u062e\u0645"),
  (0xFD7D, "\u0641\u062e\u0645\u0020\u0642\u0645\u062d\u0020\u0642\u0645\u0645"),
  (0xFD80, "\u0644\u062d\u0645\u0020\u0644\u062d\u064a\u0020\u0644\u062d\u0649"),
  (0xFD83, "\u0644\u062c\u062c\u0020\u0644\u062c\u062c\u0020\u0644\u062e\u0645"),
  (0xFD86, "\u0644\u062e\u0645\u0020\u0644\u0645\u062d\u0020\u0644\u0645\u062d"),
  (0xFD89, "\u0645\u062d\u062c\u0020\u0645\u062d\u0645\u0020\u0645\u062d\u064a"),
  (0xFD8C, "\u0645\u062c\u062d\u0020\u0645\u062c\u0645\u0020\u0645\u062e\u062c"),
  (0xFD8F, "\u0645\u062e\u0645"),
  (0xFD92, "\u0645\u062c\u062e\u0020\u0647\u0645\u062c\u0020\u0647\u0645\u0645"),
  (0xFD95, "\u0646\u062d\u0645\u0020\u0646\u062d\u0649\u0020\u0646\u062c\u0645"),
  (0xFD98, "\u0646\u062c\u0645\u0020\u0646\u062c\u0649\u0020\u0646\u0645\u064a"),
  (0xFD9B, "\u0646\u0645\u0649\u0020\u064a\u0645\u0645\u0020\u064a\u0645\u0645"),
  (0xFD9E, "\u0628\u062e\u064a\u0020\u062a\u062c\u064a\u0020\u062a\u062c\u0649"),
  (0xFDA1, "\u062a\u062e\u064a\u0020\u062a\u062e\u0649\u0020\u062a\u0645\u064a"),
  (0xFDA4, "\u062a\u0645\u0649\u0020\u062c\u0645\u064a\u0020\u062c\u062d\u0649"),
  (0xFDA7, "\u062c\u0645\u0649\u0020\u0633\u062e\u0649\u0020\u0635\u062d\u064a"),
  (0xFDAA, "\u0634\u062d\u064a\u0020\u0636\u062d\u064a\u0020\u0644\u062c\u064a"),
  (0xFDAD, "\u0644\u0645\u064a\u0020\u064a\u062d\u064a\u0020\u064a\u062c\u064a"),
  (0xFDB0, "\u064a\u0645\u064a\u0020\u0645\u0645\u064a\u0020\u0642\u0645\u064a"),
  (0xFDB3, "\u0646\u062d\u064a\u0020\u0642\u0645\u062d\u0020\u0644\u062d\u0645"),
  (0xFDB6, "\u0639\u0645\u064a\u0020\u0643\u0645\u064a\u0020\u0646\u062c\u062d"),
  (0xFDB9, "\u0645\u062e\u064a\u0020\u0644\u062c\u0645\u0020\u0643\u0645\u0645"),
  (0xFDBC, "\u0644\u062c\u0645\u0020\u0646\u062c\u062d\u0020\u062c\u062d\u064a"),
  (0xFDBF, "\u062d\u062c\u064a\u0020\u0645\u062c\u064a\u0020\u0641\u0645\u064a"),
  (0xFDC2, "\u0628\u062d\u064a\u0020\u0643\u0645\u0645\u0020\u0639\u062c\u0645"),
  (0xFDC5, "\u0635\u0645\u0645\u0020\u0633\u062e\u064a\u0020\u0646\u062c\u064a"),
  (0xFDF0, "\u0635\u0644\u06d2\u0020\u0642\u0644\u06d2\u0020\u0627\u0644\u0644\u0647"),
  (0xFDF3, "\u0627\u0643\u0628\u0631\u0020\u0645\u062d\u0645\u062f"),
  (0xFDF5, "\u0635\u0644\u0639\u0645\u0020\u0631\u0633\u0648\u0644"),
  (0xFDF7, "\u0639\u0644\u064a\u0647\u0020\u0648\u0633\u0644\u0645\u0020\u0635\u0644\u0649"),
  (0xFDFC, "\u0631\u06cc\u0627\u0644"), (0xFE71, "\u0640\u064b"), (0xFE77, "\u0640\u064e"),
  (0xFE79, "\u0640\u064f"), (0xFE7B, "\u0640\u0650"), (0xFE7D, "\u0640\u0651"),
  (0xFE7F, "\u0640\u0652"),
  (0xFEF5, "\u0644\u0622\u0020\u0644\u0622\u0020\u0644\u0623\u0020\u0644\u0623"),
  (0xFEF9, "\u0644\u0625\u0020\u0644\u0625\u0020\u0644\u0627\u0020\u0644\u0627"),
  (0x1F101, "0,\u00201,\u00202,\u00203,\u00204,\u00205,\u00206,\u00207,\u00208,\u00209,"),
  (0x1F110, "(a)\u0020(b)\u0020(c)\u0020(d)\u0020(e)\u0020(f)\u0020(g)\u0020(h)\u0020(i)"),
  (0x1F119, "(j)\u0020(k)\u0020(l)\u0020(m)\u0020(n)\u0020(o)\u0020(p)\u0020(q)\u0020(r)"),
  (0x1F122, "(s)\u0020(t)\u0020(u)\u0020(v)\u0020(w)\u0020(x)\u0020(y)\u0020(z)\u0020〔s〕"),
  (0x1F12D, "cd\u0020wz"), (0x1F14A, "hv\u0020mv\u0020sd\u0020ss\u0020ppv\u0020wc"),
  (0x1F16A, "mc\u0020md\u0020mr"), (0x1F190, "dj"), (0x1F200, "ほか\u0020ココ"),
  (0x1F240, "〔本〕\u0020〔三〕\u0020〔二〕\u0020〔安〕\u0020〔点〕\u0020〔打〕\u0020〔盗〕\u0020〔勝〕\u0020〔敗〕")]

/-! ## The mapping -/

/-- The characters that have no place in a name, as ranges. -/
def excludedRanges : Ranges := .ofTable excludedTable

/-- The characters that are dropped, as ranges. -/
def ignoredRanges : Ranges := .ofTable ignoredTable

/-- Where a character moves. -/
def moved? (c : Char) : Option Char :=
  let n := c.toNat
  (movedRuns.find? fun (a, b, step, _) => a ≤ n && n ≤ b && (n - a) % step == 0).map
    fun (_, _, _, d) => Char.ofNat (Int.toNat (n + d))

/-- The one character that a character becomes. -/
def replaced? (c : Char) : Option Char :=
  replacedTable.findSome? fun (first, row) => if first ≤ c.toNat then row.toList[c.toNat - first]? else none

/-- The several characters that a character becomes. -/
def expanded? (c : Char) : Option (List Char) :=
  expandedTable.findSome? fun (first, row) =>
    if first ≤ c.toNat then (Text.words row.toList)[c.toNat - first]? else none

/-- What becomes of a character; `none` if it has no place in a name. -/
def mapChar? (c : Char) : Option (List Char) :=
  if c.toNat < 0x80 then some [c.toLower]
  else if excludedRanges.contains c then none
  else if ignoredRanges.contains c then some []
  else match moved? c with
    | some d => some [d]
    | none =>
      match replaced? c with
      | some d => some [d]
      | none => some ((expanded? c).getD [c])

/-- Of ASCII only capital letters change. -/
theorem mapChar?_ascii {c : Char} (h : c.toNat < 0x80) : mapChar? c = some [c.toLower] := by
  simp [mapChar?, h]

end TableIndex.Url.Domain
