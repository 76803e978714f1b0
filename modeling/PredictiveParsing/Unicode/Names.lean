/-!
# Names of categories, scripts and properties

Each name in lower case and without spaces, hyphens and underscores, with what it
names: the short name of a category, the code of a script, the long name of a binary
property or of a part in segmentation. A category may be a group such as `L`.
-/

namespace PredictiveParsing.Unicode

/-- The names of general categories and of their groups. Surrogates are no characters, and their
category has no name. -/
def categoryNames : List (String × String) := [
  ("c", "C"), ("other", "C"), ("cc", "Cc"), ("control", "Cc"), ("cntrl", "Cc"), ("cf", "Cf"),
  ("format", "Cf"), ("cn", "Cn"), ("unassigned", "Cn"), ("co", "Co"), ("privateuse", "Co"),
  ("l", "L"), ("letter", "L"), ("lc", "LC"),
  ("casedletter", "LC"), ("ll", "Ll"), ("lowercaseletter", "Ll"), ("lm", "Lm"),
  ("modifierletter", "Lm"), ("lo", "Lo"), ("otherletter", "Lo"), ("lt", "Lt"),
  ("titlecaseletter", "Lt"), ("lu", "Lu"), ("uppercaseletter", "Lu"), ("m", "M"),
  ("mark", "M"), ("combiningmark", "M"), ("mc", "Mc"), ("spacingmark", "Mc"), ("me", "Me"),
  ("enclosingmark", "Me"), ("mn", "Mn"), ("nonspacingmark", "Mn"), ("n", "N"), ("number", "N"),
  ("nd", "Nd"), ("decimalnumber", "Nd"), ("digit", "Nd"), ("nl", "Nl"), ("letternumber", "Nl"),
  ("no", "No"), ("othernumber", "No"), ("p", "P"), ("punctuation", "P"), ("punct", "P"),
  ("pc", "Pc"), ("connectorpunctuation", "Pc"), ("pd", "Pd"), ("dashpunctuation", "Pd"),
  ("pe", "Pe"), ("closepunctuation", "Pe"), ("pf", "Pf"), ("finalpunctuation", "Pf"),
  ("pi", "Pi"), ("initialpunctuation", "Pi"), ("po", "Po"), ("otherpunctuation", "Po"),
  ("ps", "Ps"), ("openpunctuation", "Ps"), ("s", "S"), ("symbol", "S"), ("sc", "Sc"),
  ("currencysymbol", "Sc"), ("sk", "Sk"), ("modifiersymbol", "Sk"), ("sm", "Sm"),
  ("mathsymbol", "Sm"), ("so", "So"), ("othersymbol", "So"), ("z", "Z"), ("separator", "Z"),
  ("zl", "Zl"), ("lineseparator", "Zl"), ("zp", "Zp"), ("paragraphseparator", "Zp"),
  ("zs", "Zs"), ("spaceseparator", "Zs")]

def scriptNames : List (String × String) := [
  ("adlm", "Adlm"), ("adlam", "Adlm"), ("aghb", "Aghb"), ("caucasianalbanian", "Aghb"),
  ("ahom", "Ahom"), ("arab", "Arab"), ("arabic", "Arab"), ("armi", "Armi"),
  ("imperialaramaic", "Armi"), ("armn", "Armn"), ("armenian", "Armn"), ("avst", "Avst"),
  ("avestan", "Avst"), ("bali", "Bali"), ("balinese", "Bali"), ("bamu", "Bamu"),
  ("bamum", "Bamu"), ("bass", "Bass"), ("bassavah", "Bass"), ("batk", "Batk"),
  ("batak", "Batk"), ("beng", "Beng"), ("bengali", "Beng"), ("bhks", "Bhks"),
  ("bhaiksuki", "Bhks"), ("bopo", "Bopo"), ("bopomofo", "Bopo"), ("brah", "Brah"),
  ("brahmi", "Brah"), ("brai", "Brai"), ("braille", "Brai"), ("bugi", "Bugi"),
  ("buginese", "Bugi"), ("buhd", "Buhd"), ("buhid", "Buhd"), ("cakm", "Cakm"),
  ("chakma", "Cakm"), ("cans", "Cans"), ("canadianaboriginal", "Cans"), ("cari", "Cari"),
  ("carian", "Cari"), ("cham", "Cham"), ("cher", "Cher"), ("cherokee", "Cher"),
  ("chrs", "Chrs"), ("chorasmian", "Chrs"), ("copt", "Copt"), ("coptic", "Copt"),
  ("qaac", "Copt"), ("cpmn", "Cpmn"), ("cyprominoan", "Cpmn"), ("cprt", "Cprt"),
  ("cypriot", "Cprt"), ("cyrl", "Cyrl"), ("cyrillic", "Cyrl"), ("deva", "Deva"),
  ("devanagari", "Deva"), ("diak", "Diak"), ("divesakuru", "Diak"), ("dogr", "Dogr"),
  ("dogra", "Dogr"), ("dsrt", "Dsrt"), ("deseret", "Dsrt"), ("dupl", "Dupl"),
  ("duployan", "Dupl"), ("egyp", "Egyp"), ("egyptianhieroglyphs", "Egyp"), ("elba", "Elba"),
  ("elbasan", "Elba"), ("elym", "Elym"), ("elymaic", "Elym"), ("ethi", "Ethi"),
  ("ethiopic", "Ethi"), ("geor", "Geor"), ("georgian", "Geor"), ("glag", "Glag"),
  ("glagolitic", "Glag"), ("gong", "Gong"), ("gunjalagondi", "Gong"), ("gonm", "Gonm"),
  ("masaramgondi", "Gonm"), ("goth", "Goth"), ("gothic", "Goth"), ("gran", "Gran"),
  ("grantha", "Gran"), ("grek", "Grek"), ("greek", "Grek"), ("gujr", "Gujr"),
  ("gujarati", "Gujr"), ("guru", "Guru"), ("gurmukhi", "Guru"), ("hang", "Hang"),
  ("hangul", "Hang"), ("hani", "Hani"), ("han", "Hani"), ("hano", "Hano"), ("hanunoo", "Hano"),
  ("hatr", "Hatr"), ("hatran", "Hatr"), ("hebr", "Hebr"), ("hebrew", "Hebr"), ("hira", "Hira"),
  ("hiragana", "Hira"), ("hluw", "Hluw"), ("anatolianhieroglyphs", "Hluw"), ("hmng", "Hmng"),
  ("pahawhhmong", "Hmng"), ("hmnp", "Hmnp"), ("nyiakengpuachuehmong", "Hmnp"),
  ("hung", "Hung"), ("oldhungarian", "Hung"), ("ital", "Ital"), ("olditalic", "Ital"),
  ("java", "Java"), ("javanese", "Java"), ("kali", "Kali"), ("kayahli", "Kali"),
  ("kana", "Kana"), ("katakana", "Kana"), ("kawi", "Kawi"), ("khar", "Khar"),
  ("kharoshthi", "Khar"), ("khmr", "Khmr"), ("khmer", "Khmr"), ("khoj", "Khoj"),
  ("khojki", "Khoj"), ("kits", "Kits"), ("khitansmallscript", "Kits"), ("knda", "Knda"),
  ("kannada", "Knda"), ("kthi", "Kthi"), ("kaithi", "Kthi"), ("lana", "Lana"),
  ("taitham", "Lana"), ("laoo", "Laoo"), ("lao", "Laoo"), ("latn", "Latn"), ("latin", "Latn"),
  ("lepc", "Lepc"), ("lepcha", "Lepc"), ("limb", "Limb"), ("limbu", "Limb"), ("lina", "Lina"),
  ("lineara", "Lina"), ("linb", "Linb"), ("linearb", "Linb"), ("lisu", "Lisu"),
  ("lyci", "Lyci"), ("lycian", "Lyci"), ("lydi", "Lydi"), ("lydian", "Lydi"), ("mahj", "Mahj"),
  ("mahajani", "Mahj"), ("maka", "Maka"), ("makasar", "Maka"), ("mand", "Mand"),
  ("mandaic", "Mand"), ("mani", "Mani"), ("manichaean", "Mani"), ("marc", "Marc"),
  ("marchen", "Marc"), ("medf", "Medf"), ("medefaidrin", "Medf"), ("mend", "Mend"),
  ("mendekikakui", "Mend"), ("merc", "Merc"), ("meroiticcursive", "Merc"), ("mero", "Mero"),
  ("meroitichieroglyphs", "Mero"), ("mlym", "Mlym"), ("malayalam", "Mlym"), ("modi", "Modi"),
  ("mong", "Mong"), ("mongolian", "Mong"), ("mroo", "Mroo"), ("mro", "Mroo"), ("mtei", "Mtei"),
  ("meeteimayek", "Mtei"), ("mult", "Mult"), ("multani", "Mult"), ("mymr", "Mymr"),
  ("myanmar", "Mymr"), ("nagm", "Nagm"), ("nagmundari", "Nagm"), ("nand", "Nand"),
  ("nandinagari", "Nand"), ("narb", "Narb"), ("oldnortharabian", "Narb"), ("nbat", "Nbat"),
  ("nabataean", "Nbat"), ("newa", "Newa"), ("nkoo", "Nkoo"), ("nko", "Nkoo"), ("nshu", "Nshu"),
  ("nushu", "Nshu"), ("ogam", "Ogam"), ("ogham", "Ogam"), ("olck", "Olck"),
  ("olchiki", "Olck"), ("orkh", "Orkh"), ("oldturkic", "Orkh"), ("orya", "Orya"),
  ("oriya", "Orya"), ("osge", "Osge"), ("osage", "Osge"), ("osma", "Osma"),
  ("osmanya", "Osma"), ("ougr", "Ougr"), ("olduyghur", "Ougr"), ("palm", "Palm"),
  ("palmyrene", "Palm"), ("pauc", "Pauc"), ("paucinhau", "Pauc"), ("perm", "Perm"),
  ("oldpermic", "Perm"), ("phag", "Phag"), ("phagspa", "Phag"), ("phli", "Phli"),
  ("inscriptionalpahlavi", "Phli"), ("phlp", "Phlp"), ("psalterpahlavi", "Phlp"),
  ("phnx", "Phnx"), ("phoenician", "Phnx"), ("plrd", "Plrd"), ("miao", "Plrd"),
  ("prti", "Prti"), ("inscriptionalparthian", "Prti"), ("rjng", "Rjng"), ("rejang", "Rjng"),
  ("rohg", "Rohg"), ("hanifirohingya", "Rohg"), ("runr", "Runr"), ("runic", "Runr"),
  ("samr", "Samr"), ("samaritan", "Samr"), ("sarb", "Sarb"), ("oldsoutharabian", "Sarb"),
  ("saur", "Saur"), ("saurashtra", "Saur"), ("sgnw", "Sgnw"), ("signwriting", "Sgnw"),
  ("shaw", "Shaw"), ("shavian", "Shaw"), ("shrd", "Shrd"), ("sharada", "Shrd"),
  ("sidd", "Sidd"), ("siddham", "Sidd"), ("sind", "Sind"), ("khudawadi", "Sind"),
  ("sinh", "Sinh"), ("sinhala", "Sinh"), ("sogd", "Sogd"), ("sogdian", "Sogd"),
  ("sogo", "Sogo"), ("oldsogdian", "Sogo"), ("sora", "Sora"), ("sorasompeng", "Sora"),
  ("soyo", "Soyo"), ("soyombo", "Soyo"), ("sund", "Sund"), ("sundanese", "Sund"),
  ("sylo", "Sylo"), ("sylotinagri", "Sylo"), ("syrc", "Syrc"), ("syriac", "Syrc"),
  ("tagb", "Tagb"), ("tagbanwa", "Tagb"), ("takr", "Takr"), ("takri", "Takr"),
  ("tale", "Tale"), ("taile", "Tale"), ("talu", "Talu"), ("newtailue", "Talu"),
  ("taml", "Taml"), ("tamil", "Taml"), ("tang", "Tang"), ("tangut", "Tang"), ("tavt", "Tavt"),
  ("taiviet", "Tavt"), ("telu", "Telu"), ("telugu", "Telu"), ("tfng", "Tfng"),
  ("tifinagh", "Tfng"), ("tglg", "Tglg"), ("tagalog", "Tglg"), ("thaa", "Thaa"),
  ("thaana", "Thaa"), ("thai", "Thai"), ("tibt", "Tibt"), ("tibetan", "Tibt"),
  ("tirh", "Tirh"), ("tirhuta", "Tirh"), ("tnsa", "Tnsa"), ("tangsa", "Tnsa"),
  ("toto", "Toto"), ("ugar", "Ugar"), ("ugaritic", "Ugar"), ("vaii", "Vaii"), ("vai", "Vaii"),
  ("vith", "Vith"), ("vithkuqi", "Vith"), ("wara", "Wara"), ("warangciti", "Wara"),
  ("wcho", "Wcho"), ("wancho", "Wcho"), ("xpeo", "Xpeo"), ("oldpersian", "Xpeo"),
  ("xsux", "Xsux"), ("cuneiform", "Xsux"), ("yezi", "Yezi"), ("yezidi", "Yezi"),
  ("yiii", "Yiii"), ("yi", "Yiii"), ("zanb", "Zanb"), ("zanabazarsquare", "Zanb"),
  ("zinh", "Zinh"), ("inherited", "Zinh"), ("qaai", "Zinh"), ("zyyy", "Zyyy"),
  ("common", "Zyyy"), ("zzzz", "Zzzz"), ("unknown", "Zzzz"), ("gara", "Gara"),
  ("garay", "Gara"), ("gukh", "Gukh"), ("gurungkhema", "Gukh"), ("krai", "Krai"),
  ("kiratrai", "Krai"), ("onao", "Onao"), ("olonal", "Onao"), ("sunu", "Sunu"),
  ("sunuwar", "Sunu"), ("todr", "Todr"), ("todhri", "Todr"), ("tutg", "Tutg"),
  ("tulutigalari", "Tutg")]

def propertyNames : List (String × String) := [
  ("asciihexdigit", "ASCII_Hex_Digit"), ("ahex", "ASCII_Hex_Digit"),
  ("alphabetic", "Alphabetic"), ("alpha", "Alphabetic"), ("bidicontrol", "Bidi_Control"),
  ("bidic", "Bidi_Control"), ("bidimirrored", "Bidi_Mirrored"), ("bidim", "Bidi_Mirrored"),
  ("caseignorable", "Case_Ignorable"), ("ci", "Case_Ignorable"), ("cased", "Cased"),
  ("changeswhencasefolded", "Changes_When_Casefolded"), ("cwcf", "Changes_When_Casefolded"),
  ("changeswhencasemapped", "Changes_When_Casemapped"), ("cwcm", "Changes_When_Casemapped"),
  ("changeswhenlowercased", "Changes_When_Lowercased"), ("cwl", "Changes_When_Lowercased"),
  ("changeswhentitlecased", "Changes_When_Titlecased"), ("cwt", "Changes_When_Titlecased"),
  ("changeswhenuppercased", "Changes_When_Uppercased"), ("cwu", "Changes_When_Uppercased"),
  ("dash", "Dash"), ("defaultignorablecodepoint", "Default_Ignorable_Code_Point"),
  ("di", "Default_Ignorable_Code_Point"), ("deprecated", "Deprecated"), ("dep", "Deprecated"),
  ("diacritic", "Diacritic"), ("dia", "Diacritic"), ("emoji", "Emoji"),
  ("emojicomponent", "Emoji_Component"), ("ecomp", "Emoji_Component"),
  ("emojimodifier", "Emoji_Modifier"), ("emod", "Emoji_Modifier"),
  ("emojimodifierbase", "Emoji_Modifier_Base"), ("ebase", "Emoji_Modifier_Base"),
  ("emojipresentation", "Emoji_Presentation"), ("epres", "Emoji_Presentation"),
  ("extendedpictographic", "Extended_Pictographic"), ("extpict", "Extended_Pictographic"),
  ("extender", "Extender"), ("ext", "Extender"), ("graphemebase", "Grapheme_Base"),
  ("grbase", "Grapheme_Base"), ("graphemeextend", "Grapheme_Extend"),
  ("grext", "Grapheme_Extend"), ("graphemelink", "Grapheme_Link"), ("grlink", "Grapheme_Link"),
  ("hexdigit", "Hex_Digit"), ("hex", "Hex_Digit"), ("hyphen", "Hyphen"),
  ("idsbinaryoperator", "IDS_Binary_Operator"), ("idsb", "IDS_Binary_Operator"),
  ("idstrinaryoperator", "IDS_Trinary_Operator"), ("idst", "IDS_Trinary_Operator"),
  ("idsunaryoperator", "IDS_Unary_Operator"), ("idsu", "IDS_Unary_Operator"),
  ("idcompatmathcontinue", "ID_Compat_Math_Continue"),
  ("idcompatmathstart", "ID_Compat_Math_Start"), ("idcontinue", "ID_Continue"),
  ("idc", "ID_Continue"), ("idstart", "ID_Start"), ("ids", "ID_Start"),
  ("ideographic", "Ideographic"), ("ideo", "Ideographic"), ("joincontrol", "Join_Control"),
  ("joinc", "Join_Control"), ("logicalorderexception", "Logical_Order_Exception"),
  ("loe", "Logical_Order_Exception"), ("lowercase", "Lowercase"), ("lower", "Lowercase"),
  ("math", "Math"), ("modifiercombiningmark", "Modifier_Combining_Mark"),
  ("mcm", "Modifier_Combining_Mark"), ("noncharactercodepoint", "Noncharacter_Code_Point"),
  ("nchar", "Noncharacter_Code_Point"), ("otheralphabetic", "Other_Alphabetic"),
  ("oalpha", "Other_Alphabetic"),
  ("otherdefaultignorablecodepoint", "Other_Default_Ignorable_Code_Point"),
  ("odi", "Other_Default_Ignorable_Code_Point"),
  ("othergraphemeextend", "Other_Grapheme_Extend"), ("ogrext", "Other_Grapheme_Extend"),
  ("otheridcontinue", "Other_ID_Continue"), ("oidc", "Other_ID_Continue"),
  ("otheridstart", "Other_ID_Start"), ("oids", "Other_ID_Start"),
  ("otherlowercase", "Other_Lowercase"), ("olower", "Other_Lowercase"),
  ("othermath", "Other_Math"), ("omath", "Other_Math"), ("otheruppercase", "Other_Uppercase"),
  ("oupper", "Other_Uppercase"), ("patternsyntax", "Pattern_Syntax"),
  ("patsyn", "Pattern_Syntax"), ("patternwhitespace", "Pattern_White_Space"),
  ("patws", "Pattern_White_Space"),
  ("prependedconcatenationmark", "Prepended_Concatenation_Mark"),
  ("pcm", "Prepended_Concatenation_Mark"), ("quotationmark", "Quotation_Mark"),
  ("qmark", "Quotation_Mark"), ("radical", "Radical"),
  ("regionalindicator", "Regional_Indicator"), ("ri", "Regional_Indicator"),
  ("sentenceterminal", "Sentence_Terminal"), ("sterm", "Sentence_Terminal"),
  ("softdotted", "Soft_Dotted"), ("sd", "Soft_Dotted"),
  ("terminalpunctuation", "Terminal_Punctuation"), ("term", "Terminal_Punctuation"),
  ("unifiedideograph", "Unified_Ideograph"), ("uideo", "Unified_Ideograph"),
  ("uppercase", "Uppercase"), ("upper", "Uppercase"),
  ("variationselector", "Variation_Selector"), ("vs", "Variation_Selector"),
  ("whitespace", "White_Space"), ("wspace", "White_Space"), ("space", "White_Space"),
  ("xidcontinue", "XID_Continue"), ("xidc", "XID_Continue"), ("xidstart", "XID_Start"),
  ("xids", "XID_Start")]

def graphemeBreakNames : List (String × String) := [
  ("cr", "CR"), ("cn", "Control"), ("control", "Control"), ("ex", "Extend"),
  ("extend", "Extend"), ("l", "L"), ("lf", "LF"), ("lv", "LV"), ("lvt", "LVT"),
  ("pp", "Prepend"), ("prepend", "Prepend"), ("ri", "Regional_Indicator"),
  ("regionalindicator", "Regional_Indicator"), ("sm", "SpacingMark"),
  ("spacingmark", "SpacingMark"), ("t", "T"), ("v", "V"), ("zwj", "ZWJ")]

def wordBreakNames : List (String × String) := [
  ("le", "ALetter"), ("aletter", "ALetter"), ("cr", "CR"), ("dq", "Double_Quote"),
  ("doublequote", "Double_Quote"), ("extend", "Extend"), ("ex", "ExtendNumLet"),
  ("extendnumlet", "ExtendNumLet"), ("fo", "Format"), ("format", "Format"),
  ("hl", "Hebrew_Letter"), ("hebrewletter", "Hebrew_Letter"), ("ka", "Katakana"),
  ("katakana", "Katakana"), ("lf", "LF"), ("ml", "MidLetter"), ("midletter", "MidLetter"),
  ("mn", "MidNum"), ("midnum", "MidNum"), ("mb", "MidNumLet"), ("midnumlet", "MidNumLet"),
  ("nl", "Newline"), ("newline", "Newline"), ("nu", "Numeric"), ("numeric", "Numeric"),
  ("ri", "Regional_Indicator"), ("regionalindicator", "Regional_Indicator"),
  ("sq", "Single_Quote"), ("singlequote", "Single_Quote"), ("wsegspace", "WSegSpace"),
  ("zwj", "ZWJ")]

def sentenceBreakNames : List (String × String) := [
  ("at", "ATerm"), ("aterm", "ATerm"), ("cr", "CR"), ("cl", "Close"), ("close", "Close"),
  ("ex", "Extend"), ("extend", "Extend"), ("fo", "Format"), ("format", "Format"), ("lf", "LF"),
  ("lo", "Lower"), ("lower", "Lower"), ("nu", "Numeric"), ("numeric", "Numeric"),
  ("le", "OLetter"), ("oletter", "OLetter"), ("sc", "SContinue"), ("scontinue", "SContinue"),
  ("st", "STerm"), ("sterm", "STerm"), ("se", "Sep"), ("sep", "Sep"), ("sp", "Sp"),
  ("up", "Upper"), ("upper", "Upper")]

end PredictiveParsing.Unicode
