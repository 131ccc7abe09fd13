import ErrorWording.Character.Trait

set_option autoImplicit false

namespace ErrorWording.Break

def graphemes : List Trait :=
  [⟨["control", "cn"],
      [.control],
      "AD 61C 180E 200B 200E-200F 2028-202E 2060-206F FEFF FFF0-FFFB 13430-1343F 1BCA0-1BCA3
      1D173-1D17A E0000-E001F E0080-E00FF E01F0-E0FFF",
      "A D"⟩,
    ⟨["cr"],
      [],
      "D",
      ""⟩,
    ⟨["extend", "ex"],
      [.nonspacingMark, .enclosingMark],
      "9BE 9D7 B3E B57 BBE BD7 CC2 CD5-CD6 D3E D57 DCF DDF 1B35 200C 302E-302F FF9E-FF9F 1133E
      11357 113B8 113C2 113C5 113C7-113C9 113CF 114B0 114BD 115AF 1171E 11930 1D165
      1D16E-1D172 1F3FB-1F3FF E0020-E007F",
      ""⟩,
    ⟨["l"],
      [],
      "1100-115F A960-A97C",
      ""⟩,
    ⟨["lf"],
      [],
      "A",
      ""⟩,
    ⟨["lv"],
      [],
      "AC00-D788/1C",
      ""⟩,
    ⟨["lvt"],
      [],
      "AC01-AC1B AC1D-AC37 AC39-AC53 AC55-AC6F AC71-AC8B AC8D-ACA7 ACA9-ACC3 ACC5-ACDF
      ACE1-ACFB ACFD-AD17 AD19-AD33 AD35-AD4F AD51-AD6B AD6D-AD87 AD89-ADA3 ADA5-ADBF
      ADC1-ADDB ADDD-ADF7 ADF9-AE13 AE15-AE2F AE31-AE4B AE4D-AE67 AE69-AE83 AE85-AE9F
      AEA1-AEBB AEBD-AED7 AED9-AEF3 AEF5-AF0F AF11-AF2B AF2D-AF47 AF49-AF63 AF65-AF7F
      AF81-AF9B AF9D-AFB7 AFB9-AFD3 AFD5-AFEF AFF1-B00B B00D-B027 B029-B043 B045-B05F
      B061-B07B B07D-B097 B099-B0B3 B0B5-B0CF B0D1-B0EB B0ED-B107 B109-B123 B125-B13F
      B141-B15B B15D-B177 B179-B193 B195-B1AF B1B1-B1CB B1CD-B1E7 B1E9-B203 B205-B21F
      B221-B23B B23D-B257 B259-B273 B275-B28F B291-B2AB B2AD-B2C7 B2C9-B2E3 B2E5-B2FF
      B301-B31B B31D-B337 B339-B353 B355-B36F B371-B38B B38D-B3A7 B3A9-B3C3 B3C5-B3DF
      B3E1-B3FB B3FD-B417 B419-B433 B435-B44F B451-B46B B46D-B487 B489-B4A3 B4A5-B4BF
      B4C1-B4DB B4DD-B4F7 B4F9-B513 B515-B52F B531-B54B B54D-B567 B569-B583 B585-B59F
      B5A1-B5BB B5BD-B5D7 B5D9-B5F3 B5F5-B60F B611-B62B B62D-B647 B649-B663 B665-B67F
      B681-B69B B69D-B6B7 B6B9-B6D3 B6D5-B6EF B6F1-B70B B70D-B727 B729-B743 B745-B75F
      B761-B77B B77D-B797 B799-B7B3 B7B5-B7CF B7D1-B7EB B7ED-B807 B809-B823 B825-B83F
      B841-B85B B85D-B877 B879-B893 B895-B8AF B8B1-B8CB B8CD-B8E7 B8E9-B903 B905-B91F
      B921-B93B B93D-B957 B959-B973 B975-B98F B991-B9AB B9AD-B9C7 B9C9-B9E3 B9E5-B9FF
      BA01-BA1B BA1D-BA37 BA39-BA53 BA55-BA6F BA71-BA8B BA8D-BAA7 BAA9-BAC3 BAC5-BADF
      BAE1-BAFB BAFD-BB17 BB19-BB33 BB35-BB4F BB51-BB6B BB6D-BB87 BB89-BBA3 BBA5-BBBF
      BBC1-BBDB BBDD-BBF7 BBF9-BC13 BC15-BC2F BC31-BC4B BC4D-BC67 BC69-BC83 BC85-BC9F
      BCA1-BCBB BCBD-BCD7 BCD9-BCF3 BCF5-BD0F BD11-BD2B BD2D-BD47 BD49-BD63 BD65-BD7F
      BD81-BD9B BD9D-BDB7 BDB9-BDD3 BDD5-BDEF BDF1-BE0B BE0D-BE27 BE29-BE43 BE45-BE5F
      BE61-BE7B BE7D-BE97 BE99-BEB3 BEB5-BECF BED1-BEEB BEED-BF07 BF09-BF23 BF25-BF3F
      BF41-BF5B BF5D-BF77 BF79-BF93 BF95-BFAF BFB1-BFCB BFCD-BFE7 BFE9-C003 C005-C01F
      C021-C03B C03D-C057 C059-C073 C075-C08F C091-C0AB C0AD-C0C7 C0C9-C0E3 C0E5-C0FF
      C101-C11B C11D-C137 C139-C153 C155-C16F C171-C18B C18D-C1A7 C1A9-C1C3 C1C5-C1DF
      C1E1-C1FB C1FD-C217 C219-C233 C235-C24F C251-C26B C26D-C287 C289-C2A3 C2A5-C2BF
      C2C1-C2DB C2DD-C2F7 C2F9-C313 C315-C32F C331-C34B C34D-C367 C369-C383 C385-C39F
      C3A1-C3BB C3BD-C3D7 C3D9-C3F3 C3F5-C40F C411-C42B C42D-C447 C449-C463 C465-C47F
      C481-C49B C49D-C4B7 C4B9-C4D3 C4D5-C4EF C4F1-C50B C50D-C527 C529-C543 C545-C55F
      C561-C57B C57D-C597 C599-C5B3 C5B5-C5CF C5D1-C5EB C5ED-C607 C609-C623 C625-C63F
      C641-C65B C65D-C677 C679-C693 C695-C6AF C6B1-C6CB C6CD-C6E7 C6E9-C703 C705-C71F
      C721-C73B C73D-C757 C759-C773 C775-C78F C791-C7AB C7AD-C7C7 C7C9-C7E3 C7E5-C7FF
      C801-C81B C81D-C837 C839-C853 C855-C86F C871-C88B C88D-C8A7 C8A9-C8C3 C8C5-C8DF
      C8E1-C8FB C8FD-C917 C919-C933 C935-C94F C951-C96B C96D-C987 C989-C9A3 C9A5-C9BF
      C9C1-C9DB C9DD-C9F7 C9F9-CA13 CA15-CA2F CA31-CA4B CA4D-CA67 CA69-CA83 CA85-CA9F
      CAA1-CABB CABD-CAD7 CAD9-CAF3 CAF5-CB0F CB11-CB2B CB2D-CB47 CB49-CB63 CB65-CB7F
      CB81-CB9B CB9D-CBB7 CBB9-CBD3 CBD5-CBEF CBF1-CC0B CC0D-CC27 CC29-CC43 CC45-CC5F
      CC61-CC7B CC7D-CC97 CC99-CCB3 CCB5-CCCF CCD1-CCEB CCED-CD07 CD09-CD23 CD25-CD3F
      CD41-CD5B CD5D-CD77 CD79-CD93 CD95-CDAF CDB1-CDCB CDCD-CDE7 CDE9-CE03 CE05-CE1F
      CE21-CE3B CE3D-CE57 CE59-CE73 CE75-CE8F CE91-CEAB CEAD-CEC7 CEC9-CEE3 CEE5-CEFF
      CF01-CF1B CF1D-CF37 CF39-CF53 CF55-CF6F CF71-CF8B CF8D-CFA7 CFA9-CFC3 CFC5-CFDF
      CFE1-CFFB CFFD-D017 D019-D033 D035-D04F D051-D06B D06D-D087 D089-D0A3 D0A5-D0BF
      D0C1-D0DB D0DD-D0F7 D0F9-D113 D115-D12F D131-D14B D14D-D167 D169-D183 D185-D19F
      D1A1-D1BB D1BD-D1D7 D1D9-D1F3 D1F5-D20F D211-D22B D22D-D247 D249-D263 D265-D27F
      D281-D29B D29D-D2B7 D2B9-D2D3 D2D5-D2EF D2F1-D30B D30D-D327 D329-D343 D345-D35F
      D361-D37B D37D-D397 D399-D3B3 D3B5-D3CF D3D1-D3EB D3ED-D407 D409-D423 D425-D43F
      D441-D45B D45D-D477 D479-D493 D495-D4AF D4B1-D4CB D4CD-D4E7 D4E9-D503 D505-D51F
      D521-D53B D53D-D557 D559-D573 D575-D58F D591-D5AB D5AD-D5C7 D5C9-D5E3 D5E5-D5FF
      D601-D61B D61D-D637 D639-D653 D655-D66F D671-D68B D68D-D6A7 D6A9-D6C3 D6C5-D6DF
      D6E1-D6FB D6FD-D717 D719-D733 D735-D74F D751-D76B D76D-D787 D789-D7A3",
      ""⟩,
    ⟨["prepend", "pp"],
      [],
      "600-605 6DD 70F 890-891 8E2 D4E 110BD 110CD 111C2-111C3 113D1 1193F 11941 11A3A
      11A84-11A89 11D46 11F02",
      ""⟩,
    ⟨["regionalindicator", "ri"],
      [],
      "1F1E6-1F1FF",
      ""⟩,
    ⟨["spacingmark", "sm"],
      [.spacingMark],
      "E33 EB3",
      "9BE 9D7 B3E B57 BBE BD7 CC2 CD5-CD6 D3E D57 DCF DDF 102B-102C 1038 1062-1064 1067-106D
      1083 1087-108C 108F 109A-109C 1A61 1A63-1A64 1B35 302E-302F AA7B AA7D 1133E 11357 113B8
      113C2 113C5 113C7-113C9 113CF 114B0 114BD 115AF 1171E 11720-11721 11930 1D165
      1D16E-1D172"⟩,
    ⟨["t"],
      [],
      "11A8-11FF D7CB-D7FB",
      ""⟩,
    ⟨["v"],
      [],
      "1160-11A7 D7B0-D7C6 16D63 16D67-16D6A",
      ""⟩,
    ⟨["zwj"],
      [],
      "200D",
      ""⟩]

def words : List Trait :=
  [⟨["aletter", "le"],
      [.uppercaseLetter, .lowercaseLetter, .titlecaseLetter, .modifierLetter, .otherLetter,
       .letterNumber],
      "2C2-2C5 2D2-2D7 2DE-2DF 2E5-2EB 2ED 2EF-2FF 55A-55C 55E 58A 5F3 24B6-24E9 A708-A716
      A720-A721 A789-A78A AB5B 1F130-1F149 1F150-1F169 1F170-1F189",
      "5D0-5EA 5EF-5F2 E01-E30 E32-E33 E40-E46 E81-E82 E84 E86-E8A E8C-EA3 EA5 EA7-EB0 EB2-EB3
      EBD EC0-EC4 EC6 EDC-EDF 1000-102A 103F 1050-1055 105A-105D 1061 1065-1066 106E-1070
      1075-1081 108E 1780-17B3 17D7 17DC 1950-196D 1970-1974 1980-19AB 19B0-19C9 1A20-1A54
      1AA7 3006-3007 3021-3029 3031-3035 3038-303A 3041-3096 309D-309F 30A1-30FA 30FC-30FF
      31F0-31FF 3400-4DBF 4E00-9FFF A9E0-A9E4 A9E6-A9EF A9FA-A9FE AA60-AA76 AA7A AA7E-AAAF
      AAB1 AAB5-AAB6 AAB9-AABD AAC0 AAC2 AADB-AADD F900-FA6D FA70-FAD9 FB1D FB1F-FB28
      FB2A-FB36 FB38-FB3C FB3E FB40-FB41 FB43-FB44 FB46-FB4F FF66-FF9F 11700-1171A 11740-11746
      17000-187F7 18800-18CD5 18CFF-18D08 1AFF0-1AFF3 1AFF5-1AFFB 1AFFD-1AFFE 1B000-1B122
      1B132 1B150-1B152 1B155 1B164-1B167 1B170-1B2FB 20000-2A6DF 2A700-2B739 2B740-2B81D
      2B820-2CEA1 2CEB0-2EBE0 2EBF0-2EE5D 2F800-2FA1D 30000-3134A 31350-323AF"⟩,
    ⟨["cr"],
      [],
      "D",
      ""⟩,
    ⟨["doublequote", "dq"],
      [],
      "22",
      ""⟩,
    ⟨["extend"],
      [.nonspacingMark, .spacingMark, .enclosingMark],
      "200C FF9E-FF9F 1F3FB-1F3FF E0020-E007F",
      ""⟩,
    ⟨["extendnumlet", "ex"],
      [.connectorPunctuation],
      "202F",
      ""⟩,
    ⟨["format", "fo"],
      [.format],
      "",
      "200B-200D E0020-E007F"⟩,
    ⟨["hebrewletter", "hl"],
      [],
      "5D0-5EA 5EF-5F2 FB1D FB1F-FB28 FB2A-FB36 FB38-FB3C FB3E FB40-FB41 FB43-FB44 FB46-FB4F",
      ""⟩,
    ⟨["katakana", "ka"],
      [],
      "3031-3035 309B-309C 30A0-30FA 30FC-30FF 31F0-31FF 32D0-32FE 3300-3357 FF66-FF9D
      1AFF0-1AFF3 1AFF5-1AFFB 1AFFD-1AFFE 1B000 1B120-1B122 1B155 1B164-1B167",
      ""⟩,
    ⟨["lf"],
      [],
      "A",
      ""⟩,
    ⟨["midletter", "ml"],
      [],
      "3A B7 387 55F 5F4 2027 FE13 FE55 FF1A",
      ""⟩,
    ⟨["midnum", "mn"],
      [],
      "2C 3B 37E 589 60C-60D 66C 7F8 2044 FE10 FE14 FE50 FE54 FF0C FF1B",
      ""⟩,
    ⟨["midnumlet", "mb"],
      [],
      "2E 2018-2019 2024 FE52 FF07 FF0E",
      ""⟩,
    ⟨["newline", "nl"],
      [],
      "B-C 85 2028-2029",
      ""⟩,
    ⟨["numeric", "nu"],
      [.decimalNumber],
      "66B",
      ""⟩,
    ⟨["regionalindicator", "ri"],
      [],
      "1F1E6-1F1FF",
      ""⟩,
    ⟨["singlequote", "sq"],
      [],
      "27",
      ""⟩,
    ⟨["wsegspace"],
      [.spaceSeparator],
      "",
      "A0 2007 202F"⟩,
    ⟨["zwj"],
      [],
      "200D",
      ""⟩]

def sentences : List Trait :=
  [⟨["aterm", "at"],
      [],
      "2E 2024 FE52 FF0E",
      ""⟩,
    ⟨["close", "cl"],
      [.openPunctuation, .closePunctuation, .initialPunctuation, .finalPunctuation],
      "22 27 275B-2760 2E00-2E01 2E06-2E08 2E0B 1F676-1F678",
      ""⟩,
    ⟨["cr"],
      [],
      "D",
      ""⟩,
    ⟨["extend", "ex"],
      [.nonspacingMark, .spacingMark, .enclosingMark],
      "200C-200D FF9E-FF9F E0020-E007F",
      ""⟩,
    ⟨["format", "fo"],
      [.format],
      "",
      "200C-200D E0020-E007F"⟩,
    ⟨["lf"],
      [],
      "A",
      ""⟩,
    ⟨["lower", "lo"],
      [.lowercaseLetter],
      "AA BA 295 2B0-2B8 2C0-2C1 2E0-2E4 37A 10FC 1D2C-1D6A 1D78 1D9B-1DBF 2071 207F 2090-209C
      2170-217F 24D0-24E9 2C7C-2C7D A69C-A69D A770 A7F2-A7F4 A7F8-A7F9 AB5C-AB5F AB69 10780
      10783-10785 10787-107B0 107B2-107BA 1E030-1E06D",
      "10D0-10FA 10FD-10FF"⟩,
    ⟨["numeric", "nu"],
      [.decimalNumber],
      "66B-66C",
      ""⟩,
    ⟨["oletter", "le"],
      [.modifierLetter, .otherLetter, .letterNumber],
      "5F3 10D0-10FA 10FD-10FF 1C90-1CBA 1CBD-1CBF",
      "AA BA 295 2B0-2B8 2C0-2C1 2E0-2E4 37A 10FC 1D2C-1D6A 1D78 1D9B-1DBF 2071 207F 2090-209C
      2160-217F 2C7C-2C7D A69C-A69D A770 A7F2-A7F4 A7F8-A7F9 AB5C-AB5F AB69 FF9E-FF9F 10780
      10783-10785 10787-107B0 107B2-107BA 1E030-1E06D"⟩,
    ⟨["scontinue", "sc"],
      [],
      "2C-2D 3A 55D 60C-60D 7F8 1802 1808 2013-2014 3001 FE10-FE11 FE13 FE31-FE32 FE50-FE51
      FE55 FE58 FE63 FF0C-FF0D FF1A FF64",
      ""⟩,
    ⟨["sep", "se"],
      [],
      "85 2028-2029",
      ""⟩,
    ⟨["sp"],
      [.spaceSeparator],
      "9 B-C",
      ""⟩,
    ⟨["sterm", "st"],
      [],
      "21 3F 589 61D-61F 6D4 700-702 7F9 837 839 83D-83E 964-965 104A-104B 1362 1367-1368 166E
      1735-1736 1803 1809 1944-1945 1AA8-1AAB 1B4E-1B4F 1B5A-1B5B 1B5E-1B5F 1B7D-1B7F
      1C3B-1C3C 1C7E-1C7F 203C-203D 2047-2049 2E2E 2E3C 2E53-2E54 3002 A4FF A60E-A60F A6F3
      A6F7 A876-A877 A8CE-A8CF A92F A9C8-A9C9 AA5D-AA5F AAF0-AAF1 ABEB FE56-FE57 FF01 FF1F
      FF61 10A56-10A57 10F55-10F59 10F86-10F89 11047-11048 110BE-110C1 11141-11143 111C5-111C6
      111CD 111DE-111DF 11238-11239 1123B-1123C 112A9 113D4-113D5 1144B-1144C 115C2-115C3
      115C9-115D7 11641-11642 1173C-1173E 11944 11946 11A42-11A43 11A9B-11A9C 11C41-11C42
      11EF7-11EF8 11F43-11F44 16A6E-16A6F 16AF5 16B37-16B38 16B44 16D6E-16D6F 16E98 1BC9F
      1DA88",
      ""⟩,
    ⟨["upper", "up"],
      [.uppercaseLetter, .titlecaseLetter],
      "2160-216F 24B6-24CF 1F130-1F149 1F150-1F169 1F170-1F189",
      "1C90-1CBA 1CBD-1CBF"⟩]

def named? (classes : List Trait) (name : String) : Option CharSet :=
  (classes.find? (name ∈ ·.names)).map (·.set)

end ErrorWording.Break
