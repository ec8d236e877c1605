import TagRules.Text.Property

/-!
# Segmentation

The classes of characters by which text is cut into what readers take for one character, into words
and into sentences. Most classes are short lists; the others are derived from categories and
properties.
-/

namespace TagRules.Text

/-- The classes for what readers take for one character. -/
def graphemeBreaks : List Derivation :=
  [⟨["cr"], [.ranges "D"], []⟩,
    ⟨["control", "cn"],
      [.ranges <| Ranges.table [
          "0-9 B-C E-1F 7F-9F AD 61C 180E 200B 200E-200F 2028-202E 2060-206F FEFF FFF0-FFFB",
          "13430-1343F 1BCA0-1BCA3 1D173-1D17A E0000-E001F E0080-E00FF E01F0-E0FFF"]],
      []⟩,
    ⟨["extend", "ex"],
      [.categories ["me", "mn"], .property "othergraphemeextend", .property "emojimodifier"],
      []⟩,
    ⟨["l"], [.ranges "1100-115F A960-A97C"], []⟩,
    ⟨["lf"], [.ranges "A"], []⟩,
    ⟨["lv"], [.ranges "AC00-D788/1C"], []⟩,
    ⟨["lvt"], [.ranges "AC00-D7A3"], [.ranges "AC00-D788/1C"]⟩,
    ⟨["prepend", "pp"],
      [.ranges <| Ranges.table [
          "600-605 6DD 70F 890-891 8E2 D4E 110BD 110CD 111C2-111C3 113D1 1193F 11941 11A3A",
          "11A84-11A89 11D46 11F02"]],
      []⟩,
    ⟨["regionalindicator", "ri"], [.ranges "1F1E6-1F1FF"], []⟩,
    ⟨["spacingmark", "sm"],
      [.categories ["mc"], .ranges "E33 EB3"],
      [.property "othergraphemeextend",
       .ranges <| Ranges.table [
          "102B-102C 1038 1062-1064 1067-106D 1083 1087-108C 108F 109A-109C 1A61 1A63-1A64 AA7B",
          "AA7D 11720-11721"]]⟩,
    ⟨["t"], [.ranges "11A8-11FF D7CB-D7FB"], []⟩,
    ⟨["v"], [.ranges "1160-11A7 D7B0-D7C6 16D63 16D67-16D6A"], []⟩,
    ⟨["zwj"], [.ranges "200D"], []⟩]

/-- The classes for words. -/
def wordBreaks : List Derivation :=
  [⟨["aletter", "le"],
      [.categories ["lu", "ll", "lt", "lm", "lo", "nl"],
       .property "otheralphabetic",
       .ranges <| Ranges.table [
          "2C2-2C5 2D2-2D7 2DE-2DF 2E5-2EB 2ED 2EF-2FF 55A-55C 55E 58A 5F3 70F A708-A716",
          "A720-A721 A789-A78A AB5B"]],
      [.categories ["me", "mn", "mc"],
       .property "othergraphemeextend",
       .property "ideographic",
       .script "hiragana",
       .ranges <| Ranges.table [
          "5D0-5EA 5EF-5F2 E01-E30 E32-E33 E40-E46 E81-E82 E84 E86-E8A E8C-EA3 EA5 EA7-EB0",
          "EB2-EB3 EBD EC0-EC4 EC6 EDC-EDF 1000-102A 103F 1050-1055 105A-105D 1061 1065-1066",
          "106E-1070 1075-1081 108E 1780-17B3 17D7 17DC 1950-196D 1970-1974 1980-19AB 19B0-19C9",
          "1A20-1A54 1AA7 3031-3035 309B-309C 30A0-30FA 30FC-30FF 31F0-31FF 32D0-32FE 3300-3357",
          "A9E0-A9E4 A9E6-A9EF A9FA-A9FE AA60-AA76 AA7A AA7E-AAAF AAB1 AAB5-AAB6 AAB9-AABD AAC0",
          "AAC2 AADB-AADD FB1D FB1F-FB28 FB2A-FB36 FB38-FB3C FB3E FB40-FB41 FB43-FB44 FB46-FB4F",
          "FF66-FF9D 11700-1171A 11740-11746 1AFF0-1AFF3 1AFF5-1AFFB 1AFFD-1AFFE 1B000",
          "1B120-1B122 1B155 1B164-1B167"]]⟩,
    ⟨["cr"], [.ranges "D"], []⟩,
    ⟨["doublequote", "dq"], [.ranges "22"], []⟩,
    ⟨["extend"],
      [.categories ["me", "mn", "mc"],
       .property "othergraphemeextend",
       .property "emojimodifier"],
      []⟩,
    ⟨["extendnumlet", "ex"], [.ranges "5F 202F 203F-2040 2054 FE33-FE34 FE4D-FE4F FF3F"], []⟩,
    ⟨["format", "fo"],
      [.ranges <| Ranges.table [
          "AD 61C 180E 200E-200F 202A-202E 2060-2064 2066-206F FEFF FFF9-FFFB 13430-1343F",
          "1BCA0-1BCA3 1D173-1D17A E0001"]],
      []⟩,
    ⟨["hebrewletter", "hl"],
      [.ranges <| Ranges.table [
          "5D0-5EA 5EF-5F2 FB1D FB1F-FB28 FB2A-FB36 FB38-FB3C FB3E FB40-FB41 FB43-FB44 FB46-FB4F"]],
      []⟩,
    ⟨["katakana", "ka"],
      [.ranges <| Ranges.table [
          "3031-3035 309B-309C 30A0-30FA 30FC-30FF 31F0-31FF 32D0-32FE 3300-3357 FF66-FF9D",
          "1AFF0-1AFF3 1AFF5-1AFFB 1AFFD-1AFFE 1B000 1B120-1B122 1B155 1B164-1B167"]],
      []⟩,
    ⟨["lf"], [.ranges "A"], []⟩,
    ⟨["midletter", "ml"], [.ranges "3A B7 387 55F 5F4 2027 FE13 FE55 FF1A"], []⟩,
    ⟨["midnum", "mn"], [.ranges "2C 3B 37E 589 60C-60D 66C 7F8 2044 FE50 FE54 FF0C FF1B"], []⟩,
    ⟨["midnumlet", "mb"], [.ranges "2E 2018-2019 2024 FE52 FF07 FF0E"], []⟩,
    ⟨["newline", "nl"], [.ranges "B-C 85 2028-2029"], []⟩,
    ⟨["numeric", "nu"],
      [.categories ["nd"], .ranges "600-605 66B 6DD 890-891 8E2 19DA 110BD 110CD"],
      []⟩,
    ⟨["regionalindicator", "ri"], [.ranges "1F1E6-1F1FF"], []⟩,
    ⟨["singlequote", "sq"], [.ranges "27"], []⟩,
    ⟨["wsegspace"], [.ranges "20 1680 2000-2006 2008-200A 205F 3000"], []⟩,
    ⟨["zwj"], [.ranges "200D"], []⟩]

/-- The classes for sentences. -/
def sentenceBreaks : List Derivation :=
  [⟨["aterm", "at"], [.ranges "2E 2024 FE52 FF0E"], []⟩,
    ⟨["cr"], [.ranges "D"], []⟩,
    ⟨["close", "cl"],
      [.categories ["ps", "pe", "pi", "pf"],
       .ranges "22 27 275B-2760 2E00-2E01 2E06-2E08 2E0B 1F676-1F678"],
      []⟩,
    ⟨["extend", "ex"],
      [.categories ["me", "mn", "mc"], .property "othergraphemeextend", .ranges "200D"],
      []⟩,
    ⟨["format", "fo"],
      [.ranges <| Ranges.table [
          "AD 61C 70F 180E 200B 200E-200F 202A-202E 2060-2064 2066-206F FEFF FFF9-FFFB",
          "13430-1343F 1BCA0-1BCA3 1D173-1D17A E0001"]],
      []⟩,
    ⟨["lf"], [.ranges "A"], []⟩,
    ⟨["lower", "lo"],
      [.categories ["ll"], .property "otherlowercase"],
      [.categories ["me", "mn"],
       .property "othergraphemeextend",
       .ranges "10D0-10FA 10FD-10FF"]⟩,
    ⟨["numeric", "nu"],
      [.categories ["nd"], .ranges "600-605 66B-66C 6DD 890-891 8E2 19DA 110BD 110CD"],
      []⟩,
    ⟨["oletter", "le"],
      [.categories ["lm", "lo", "nl"],
       .property "otheralphabetic",
       .ranges "5F3 10D0-10FA 10FD-10FF 1C90-1CBA 1CBD-1CBF"],
      [.categories ["me", "mn", "mc"],
       .property "otherlowercase",
       .property "otheruppercase",
       .property "othergraphemeextend"]⟩,
    ⟨["scontinue", "sc"],
      [.ranges <| Ranges.table [
          "2C-2D 3A-3B 37E 55D 60C-60D 7F8 1802 1808 2013-2014 3001 FE10-FE11 FE13-FE14",
          "FE31-FE32 FE50-FE51 FE54-FE55 FE58 FE63 FF0C-FF0D FF1A-FF1B FF64"]],
      []⟩,
    ⟨["sterm", "st"], [.property "sentenceterminal"], [.ranges "2E 2024 FE52 FF0E"]⟩,
    ⟨["sep", "se"], [.ranges "85 2028-2029"], []⟩,
    ⟨["sp"], [.ranges "9 B-C 20 A0 1680 2000-200A 202F 205F 3000"], []⟩,
    ⟨["upper", "up"],
      [.categories ["lu", "lt"], .property "otheruppercase"],
      [.ranges "1C90-1CBA 1CBD-1CBF"]⟩]

end TagRules.Text
