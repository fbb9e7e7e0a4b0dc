import GelClient.Text.CodePoints

/-!
# The repertoire of Unicode 3.2

The code points that Unicode 3.2 leaves unassigned. Prepared texts may not hold any of them.
-/

namespace GelClient.Text

/-- The ranges of unassigned code points. -/
def unassignedRanges : List String :=
  [
    "221 234-24F 2AE-2AF 2EF-2FF 350-35F 370-373 376-379 37B-37D 37F-383 38B 38D 3A2 3CF 3F7-3FF",
    "487 4CF 4F6-4F7 4FA-4FF 510-530 557-558 560 588 58B-590 5A2 5BA 5C5-5CF 5EB-5EF 5F5-60B",
    "60D-61A 61C-61E 620 63B-63F 656-65F 6EE-6EF 6FF 70E 72D-72F 74B-77F 7B2-900 904 93A-93B",
    "94E-94F 955-957 971-980 984 98D-98E 991-992 9A9 9B1 9B3-9B5 9BA-9BB 9BD 9C5-9C6 9C9-9CA",
    "9CE-9D6 9D8-9DB 9DE 9E4-9E5 9FB-A01 A03-A04 A0B-A0E A11-A12 A29 A31 A34 A37 A3A-A3B A3D",
    "A43-A46 A49-A4A A4E-A58 A5D A5F-A65 A75-A80 A84 A8C A8E A92 AA9 AB1 AB4 ABA-ABB AC6 ACA",
    "ACE-ACF AD1-ADF AE1-AE5 AF0-B00 B04 B0D-B0E B11-B12 B29 B31 B34-B35 B3A-B3B B44-B46 B49-B4A",
    "B4E-B55 B58-B5B B5E B62-B65 B71-B81 B84 B8B-B8D B91 B96-B98 B9B B9D BA0-BA2 BA5-BA7 BAB-BAD",
    "BB6 BBA-BBD BC3-BC5 BC9 BCE-BD6 BD8-BE6 BF3-C00 C04 C0D C11 C29 C34 C3A-C3D C45 C49 C4E-C54",
    "C57-C5F C62-C65 C70-C81 C84 C8D C91 CA9 CB4 CBA-CBD CC5 CC9 CCE-CD4 CD7-CDD CDF CE2-CE5",
    "CF0-D01 D04 D0D D11 D29 D3A-D3D D44-D45 D49 D4E-D56 D58-D5F D62-D65 D70-D81 D84 D97-D99 DB2",
    "DBC DBE-DBF DC7-DC9 DCB-DCE DD5 DD7 DE0-DF1 DF5-E00 E3B-E3E E5C-E80 E83 E85-E86 E89 E8B-E8C",
    "E8E-E93 E98 EA0 EA4 EA6 EA8-EA9 EAC EBA EBE-EBF EC5 EC7 ECE-ECF EDA-EDB EDE-EFF F48 F6B-F70",
    "F8C-F8F F98 FBD FCD-FCE FD0-FFF 1022 1028 102B 1033-1035 103A-103F 105A-109F 10C6-10CF",
    "10F9-10FA 10FC-10FF 115A-115E 11A3-11A7 11FA-11FF 1207 1247 1249 124E-124F 1257 1259",
    "125E-125F 1287 1289 128E-128F 12AF 12B1 12B6-12B7 12BF 12C1 12C6-12C7 12CF 12D7 12EF 130F",
    "1311 1316-1317 131F 1347 135B-1360 137D-139F 13F5-1400 1677-167F 169D-169F 16F1-16FF 170D",
    "1715-171F 1737-173F 1754-175F 176D 1771 1774-177F 17DD-17DF 17EA-17FF 180F 181A-181F",
    "1878-187F 18AA-1DFF 1E9C-1E9F 1EFA-1EFF 1F16-1F17 1F1E-1F1F 1F46-1F47 1F4E-1F4F 1F58 1F5A",
    "1F5C 1F5E 1F7E-1F7F 1FB5 1FC5 1FD4-1FD5 1FDC 1FF0-1FF1 1FF5 1FFF 2053-2056 2058-205E",
    "2064-2069 2072-2073 208F-209F 20B2-20CF 20EB-20FF 213B-213C 214C-2152 2184-218F 23CF-23FF",
    "2427-243F 244B-245F 24FF 2614-2615 2618 267E-267F 268A-2700 2705 270A-270B 2728 274C 274E",
    "2753-2755 2757 275F-2760 2795-2797 27B0 27BF-27CF 27EC-27EF 2B00-2E7F 2E9A 2EF4-2EFF",
    "2FD6-2FEF 2FFC-2FFF 3040 3097-3098 3100-3104 312D-3130 318F 31B8-31EF 321D-321F 3244-3250",
    "327C-327E 32CC-32CF 32FF 3377-337A 33DE-33DF 33FF 4DB6-4DFF 9FA6-9FFF A48D-A48F A4C7-ABFF",
    "D7A4-D7FF FA2E-FA2F FA6B-FAFF FB07-FB12 FB18-FB1C FB37 FB3D FB3F FB42 FB45 FBB2-FBD2",
    "FD40-FD4F FD90-FD91 FDC8-FDCF FDFD-FDFF FE10-FE1F FE24-FE2F FE47-FE48 FE53 FE67 FE6C-FE6F",
    "FE75 FEFD-FEFE FF00 FFBF-FFC1 FFC8-FFC9 FFD0-FFD1 FFD8-FFD9 FFDD-FFDF FFE7 FFEF-FFF8",
    "10000-102FF 1031F 10324-1032F 1034B-103FF 10426-10427 1044E-1CFFF 1D0F6-1D0FF 1D127-1D129",
    "1D1DE-1D3FF 1D455 1D49D 1D4A0-1D4A1 1D4A3-1D4A4 1D4A7-1D4A8 1D4AD 1D4BA 1D4BC 1D4C1 1D4C4",
    "1D506 1D50B-1D50C 1D515 1D51D 1D53A 1D53F 1D545 1D547-1D549 1D551 1D6A4-1D6A7 1D7CA-1D7CD",
    "1D800-1FFFD 2A6D7-2F7FF 2FA1E-2FFFD 30000-3FFFD 40000-4FFFD 50000-5FFFD 60000-6FFFD",
    "70000-7FFFD 80000-8FFFD 90000-9FFFD A0000-AFFFD B0000-BFFFD C0000-CFFFD D0000-DFFFD E0000",
    "E0002-E001F E0080-EFFFD"]

/-- The unassigned code points. -/
def unassigned : CodePoints := .ofTexts unassignedRanges

end GelClient.Text
