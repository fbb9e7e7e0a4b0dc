import GelClient.Text.CodePoints

/-!
# Direction

The characters that are written from right to left and those that are written from left to
right; all others take their direction from the characters around them.
-/

namespace GelClient.Text

/-- The ranges of characters written from right to left. -/
def rightToLeftRanges : List String :=
  [
    "5BE 5C0 5C3 5C6 5D0-5EA 5EF-5F4 608 60B 60D 61B-64A 66D-66F 671-6D5 6E5-6E6 6EE-6EF 6FA-70D",
    "70F-710 712-72F 74D-7A5 7B1 7C0-7EA 7F4-7F5 7FA 7FE-815 81A 824 828 830-83E 840-858 85E",
    "860-86A 870-88E 8A0-8C9 200F FB1D FB1F-FB28 FB2A-FB36 FB38-FB3C FB3E FB40-FB41 FB43-FB44",
    "FB46-FBC2 FBD3-FD3D FD50-FD8F FD92-FDC7 FDF0-FDFC FE70-FE74 FE76-FEFC 10800-10805 10808",
    "1080A-10835 10837-10838 1083C 1083F-10855 10857-1089E 108A7-108AF 108E0-108F2 108F4-108F5",
    "108FB-1091B 10920-10939 1093F 10980-109B7 109BC-109CF 109D2-10A00 10A10-10A13 10A15-10A17",
    "10A19-10A35 10A40-10A48 10A50-10A58 10A60-10A9F 10AC0-10AE4 10AEB-10AF6 10B00-10B35",
    "10B40-10B55 10B58-10B72 10B78-10B91 10B99-10B9C 10BA9-10BAF 10C00-10C48 10C80-10CB2",
    "10CC0-10CF2 10CFA-10D23 10E80-10EA9 10EAD 10EB0-10EB1 10F00-10F27 10F30-10F45 10F51-10F59",
    "10F70-10F81 10F86-10F89 10FB0-10FCB 10FE0-10FF6 1E800-1E8C4 1E8C7-1E8CF 1E900-1E943 1E94B",
    "1E950-1E959 1E95E-1E95F 1EC71-1ECB4 1ED01-1ED3D 1EE00-1EE03 1EE05-1EE1F 1EE21-1EE22 1EE24",
    "1EE27 1EE29-1EE32 1EE34-1EE37 1EE39 1EE3B 1EE42 1EE47 1EE49 1EE4B 1EE4D-1EE4F 1EE51-1EE52",
    "1EE54 1EE57 1EE59 1EE5B 1EE5D 1EE5F 1EE61-1EE62 1EE64 1EE67-1EE6A 1EE6C-1EE72 1EE74-1EE77",
    "1EE79-1EE7C 1EE7E 1EE80-1EE89 1EE8B-1EE9B 1EEA1-1EEA3 1EEA5-1EEA9 1EEAB-1EEBB"]

/-- The ranges of characters written from left to right. -/
def leftToRightRanges : List String :=
  [
    "41-5A 61-7A AA B5 BA C0-D6 D8-F6 F8-2B8 2BB-2C1 2D0-2D1 2E0-2E4 2EE 370-373 376-377 37A-37D",
    "37F 386 388-38A 38C 38E-3A1 3A3-3F5 3F7-482 48A-52F 531-556 559-589 903-939 93B 93D-940",
    "949-94C 94E-950 958-961 964-980 982-983 985-98C 98F-990 993-9A8 9AA-9B0 9B2 9B6-9B9 9BD-9C0",
    "9C7-9C8 9CB-9CC 9CE 9D7 9DC-9DD 9DF-9E1 9E6-9F1 9F4-9FA 9FC-9FD A03 A05-A0A A0F-A10 A13-A28",
    "A2A-A30 A32-A33 A35-A36 A38-A39 A3E-A40 A59-A5C A5E A66-A6F A72-A74 A76 A83 A85-A8D A8F-A91",
    "A93-AA8 AAA-AB0 AB2-AB3 AB5-AB9 ABD-AC0 AC9 ACB-ACC AD0 AE0-AE1 AE6-AF0 AF9 B02-B03 B05-B0C",
    "B0F-B10 B13-B28 B2A-B30 B32-B33 B35-B39 B3D-B3E B40 B47-B48 B4B-B4C B57 B5C-B5D B5F-B61",
    "B66-B77 B83 B85-B8A B8E-B90 B92-B95 B99-B9A B9C B9E-B9F BA3-BA4 BA8-BAA BAE-BB9 BBE-BBF",
    "BC1-BC2 BC6-BC8 BCA-BCC BD0 BD7 BE6-BF2 C01-C03 C05-C0C C0E-C10 C12-C28 C2A-C39 C3D C41-C44",
    "C58-C5A C5D C60-C61 C66-C6F C77 C7F-C80 C82-C8C C8E-C90 C92-CA8 CAA-CB3 CB5-CB9 CBD-CC4",
    "CC6-CC8 CCA-CCB CD5-CD6 CDD-CDE CE0-CE1 CE6-CEF CF1-CF2 D02-D0C D0E-D10 D12-D3A D3D-D40",
    "D46-D48 D4A-D4C D4E-D4F D54-D61 D66-D7F D82-D83 D85-D96 D9A-DB1 DB3-DBB DBD DC0-DC6 DCF-DD1",
    "DD8-DDF DE6-DEF DF2-DF4 E01-E30 E32-E33 E40-E46 E4F-E5B E81-E82 E84 E86-E8A E8C-EA3 EA5",
    "EA7-EB0 EB2-EB3 EBD EC0-EC4 EC6 ED0-ED9 EDC-EDF F00-F17 F1A-F34 F36 F38 F3E-F47 F49-F6C F7F",
    "F85 F88-F8C FBE-FC5 FC7-FCC FCE-FDA 1000-102C 1031 1038 103B-103C 103F-1057 105A-105D",
    "1061-1070 1075-1081 1083-1084 1087-108C 108E-109C 109E-10C5 10C7 10CD 10D0-1248 124A-124D",
    "1250-1256 1258 125A-125D 1260-1288 128A-128D 1290-12B0 12B2-12B5 12B8-12BE 12C0 12C2-12C5",
    "12C8-12D6 12D8-1310 1312-1315 1318-135A 1360-137C 1380-138F 13A0-13F5 13F8-13FD 1401-167F",
    "1681-169A 16A0-16F8 1700-1711 1715 171F-1731 1734-1736 1740-1751 1760-176C 176E-1770",
    "1780-17B3 17B6 17BE-17C5 17C7-17C8 17D4-17DA 17DC 17E0-17E9 1810-1819 1820-1878 1880-1884",
    "1887-18A8 18AA 18B0-18F5 1900-191E 1923-1926 1929-192B 1930-1931 1933-1938 1946-196D",
    "1970-1974 1980-19AB 19B0-19C9 19D0-19DA 1A00-1A16 1A19-1A1A 1A1E-1A55 1A57 1A61 1A63-1A64",
    "1A6D-1A72 1A80-1A89 1A90-1A99 1AA0-1AAD 1B04-1B33 1B35 1B3B 1B3D-1B41 1B43-1B4C 1B50-1B6A",
    "1B74-1B7E 1B82-1BA1 1BA6-1BA7 1BAA 1BAE-1BE5 1BE7 1BEA-1BEC 1BEE 1BF2-1BF3 1BFC-1C2B",
    "1C34-1C35 1C3B-1C49 1C4D-1C88 1C90-1CBA 1CBD-1CC7 1CD3 1CE1 1CE9-1CEC 1CEE-1CF3 1CF5-1CF7",
    "1CFA 1D00-1DBF 1E00-1F15 1F18-1F1D 1F20-1F45 1F48-1F4D 1F50-1F57 1F59 1F5B 1F5D 1F5F-1F7D",
    "1F80-1FB4 1FB6-1FBC 1FBE 1FC2-1FC4 1FC6-1FCC 1FD0-1FD3 1FD6-1FDB 1FE0-1FEC 1FF2-1FF4",
    "1FF6-1FFC 200E 2071 207F 2090-209C 2102 2107 210A-2113 2115 2119-211D 2124 2126 2128",
    "212A-212D 212F-2139 213C-213F 2145-2149 214E-214F 2160-2188 2336-237A 2395 249C-24E9 26AC",
    "2800-28FF 2C00-2CE4 2CEB-2CEE 2CF2-2CF3 2D00-2D25 2D27 2D2D 2D30-2D67 2D6F-2D70 2D80-2D96",
    "2DA0-2DA6 2DA8-2DAE 2DB0-2DB6 2DB8-2DBE 2DC0-2DC6 2DC8-2DCE 2DD0-2DD6 2DD8-2DDE 3005-3007",
    "3021-3029 302E-302F 3031-3035 3038-303C 3041-3096 309D-309F 30A1-30FA 30FC-30FF 3105-312F",
    "3131-318E 3190-31BF 31F0-321C 3220-324F 3260-327B 327F-32B0 32C0-32CB 32D0-3376 337B-33DD",
    "33E0-33FE 3400-4DBF 4E00-A48C A4D0-A60C A610-A62B A640-A66E A680-A69D A6A0-A6EF A6F2-A6F7",
    "A722-A787 A789-A7CA A7D0-A7D1 A7D3 A7D5-A7D9 A7F2-A801 A803-A805 A807-A80A A80C-A824 A827",
    "A830-A837 A840-A873 A880-A8C3 A8CE-A8D9 A8F2-A8FE A900-A925 A92E-A946 A952-A953 A95F-A97C",
    "A983-A9B2 A9B4-A9B5 A9BA-A9BB A9BE-A9CD A9CF-A9D9 A9DE-A9E4 A9E6-A9FE AA00-AA28 AA2F-AA30",
    "AA33-AA34 AA40-AA42 AA44-AA4B AA4D AA50-AA59 AA5C-AA7B AA7D-AAAF AAB1 AAB5-AAB6 AAB9-AABD",
    "AAC0 AAC2 AADB-AAEB AAEE-AAF5 AB01-AB06 AB09-AB0E AB11-AB16 AB20-AB26 AB28-AB2E AB30-AB69",
    "AB70-ABE4 ABE6-ABE7 ABE9-ABEC ABF0-ABF9 AC00-D7A3 D7B0-D7C6 D7CB-D7FB E000-FA6D FA70-FAD9",
    "FB00-FB06 FB13-FB17 FF21-FF3A FF41-FF5A FF66-FFBE FFC2-FFC7 FFCA-FFCF FFD2-FFD7 FFDA-FFDC",
    "10000-1000B 1000D-10026 10028-1003A 1003C-1003D 1003F-1004D 10050-1005D 10080-100FA 10100",
    "10102 10107-10133 10137-1013F 1018D-1018E 101D0-101FC 10280-1029C 102A0-102D0 10300-10323",
    "1032D-1034A 10350-10375 10380-1039D 1039F-103C3 103C8-103D5 10400-1049D 104A0-104A9",
    "104B0-104D3 104D8-104FB 10500-10527 10530-10563 1056F-1057A 1057C-1058A 1058C-10592",
    "10594-10595 10597-105A1 105A3-105B1 105B3-105B9 105BB-105BC 10600-10736 10740-10755",
    "10760-10767 10780-10785 10787-107B0 107B2-107BA 11000 11002-11037 11047-1104D 11066-1106F",
    "11071-11072 11075 11082-110B2 110B7-110B8 110BB-110C1 110CD 110D0-110E8 110F0-110F9",
    "11103-11126 1112C 11136-11147 11150-11172 11174-11176 11182-111B5 111BF-111C8 111CD-111CE",
    "111D0-111DF 111E1-111F4 11200-11211 11213-1122E 11232-11233 11235 11238-1123D 11280-11286",
    "11288 1128A-1128D 1128F-1129D 1129F-112A9 112B0-112DE 112E0-112E2 112F0-112F9 11302-11303",
    "11305-1130C 1130F-11310 11313-11328 1132A-11330 11332-11333 11335-11339 1133D-1133F",
    "11341-11344 11347-11348 1134B-1134D 11350 11357 1135D-11363 11400-11437 11440-11441 11445",
    "11447-1145B 1145D 1145F-11461 11480-114B2 114B9 114BB-114BE 114C1 114C4-114C7 114D0-114D9",
    "11580-115B1 115B8-115BB 115BE 115C1-115DB 11600-11632 1163B-1163C 1163E 11641-11644",
    "11650-11659 11680-116AA 116AC 116AE-116AF 116B6 116B8-116B9 116C0-116C9 11700-1171A",
    "11720-11721 11726 11730-11746 11800-1182E 11838 1183B 118A0-118F2 118FF-11906 11909",
    "1190C-11913 11915-11916 11918-11935 11937-11938 1193D 1193F-11942 11944-11946 11950-11959",
    "119A0-119A7 119AA-119D3 119DC-119DF 119E1-119E4 11A00 11A07-11A08 11A0B-11A32 11A39-11A3A",
    "11A3F-11A46 11A50 11A57-11A58 11A5C-11A89 11A97 11A9A-11AA2 11AB0-11AF8 11C00-11C08",
    "11C0A-11C2F 11C3E-11C45 11C50-11C6C 11C70-11C8F 11CA9 11CB1 11CB4 11D00-11D06 11D08-11D09",
    "11D0B-11D30 11D46 11D50-11D59 11D60-11D65 11D67-11D68 11D6A-11D8E 11D93-11D94 11D96 11D98",
    "11DA0-11DA9 11EE0-11EF2 11EF5-11EF8 11FB0 11FC0-11FD4 11FFF-12399 12400-1246E 12470-12474",
    "12480-12543 12F90-12FF2 13000-1342E 13430-13438 14400-14646 16800-16A38 16A40-16A5E",
    "16A60-16A69 16A6E-16ABE 16AC0-16AC9 16AD0-16AED 16AF5 16B00-16B2F 16B37-16B45 16B50-16B59",
    "16B5B-16B61 16B63-16B77 16B7D-16B8F 16E40-16E9A 16F00-16F4A 16F50-16F87 16F93-16F9F",
    "16FE0-16FE1 16FE3 16FF0-16FF1 17000-187F7 18800-18CD5 18D00-18D08 1AFF0-1AFF3 1AFF5-1AFFB",
    "1AFFD-1AFFE 1B000-1B122 1B150-1B152 1B164-1B167 1B170-1B2FB 1BC00-1BC6A 1BC70-1BC7C",
    "1BC80-1BC88 1BC90-1BC99 1BC9C 1BC9F 1CF50-1CFC3 1D000-1D0F5 1D100-1D126 1D129-1D166",
    "1D16A-1D172 1D183-1D184 1D18C-1D1A9 1D1AE-1D1E8 1D2E0-1D2F3 1D360-1D378 1D400-1D454",
    "1D456-1D49C 1D49E-1D49F 1D4A2 1D4A5-1D4A6 1D4A9-1D4AC 1D4AE-1D4B9 1D4BB 1D4BD-1D4C3",
    "1D4C5-1D505 1D507-1D50A 1D50D-1D514 1D516-1D51C 1D51E-1D539 1D53B-1D53E 1D540-1D544 1D546",
    "1D54A-1D550 1D552-1D6A5 1D6A8-1D6DA 1D6DC-1D714 1D716-1D74E 1D750-1D788 1D78A-1D7C2",
    "1D7C4-1D7CB 1D800-1D9FF 1DA37-1DA3A 1DA6D-1DA74 1DA76-1DA83 1DA85-1DA8B 1DF00-1DF1E",
    "1E100-1E12C 1E137-1E13D 1E140-1E149 1E14E-1E14F 1E290-1E2AD 1E2C0-1E2EB 1E2F0-1E2F9",
    "1E7E0-1E7E6 1E7E8-1E7EB 1E7ED-1E7EE 1E7F0-1E7FE 1F110-1F12E 1F130-1F169 1F170-1F1AC",
    "1F1E6-1F202 1F210-1F23B 1F240-1F248 1F250-1F251 20000-2A6DF 2A700-2B738 2B740-2B81D",
    "2B820-2CEA1 2CEB0-2EBE0 2F800-2FA1D 30000-3134A F0000-FFFFD 100000-10FFFD"]

/-- The characters written from right to left. -/
def rightToLeft : CodePoints := .ofTexts rightToLeftRanges

/-- The characters written from left to right. -/
def leftToRight : CodePoints := .ofTexts leftToRightRanges

end GelClient.Text
