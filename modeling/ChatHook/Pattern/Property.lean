import ChatHook.Pattern.CharSet
import ChatHook.Pattern.Fault

/-!
# Named sets of characters

The sets that a pattern calls by name: those of a letter behind a backslash, those of a name
between colons, and the properties of Unicode. The members of a property are listed as far as they
are among the first 128 characters, for texts that have no others; of the remaining properties it
is known only that they exist.
-/

namespace ChatHook.Pattern

/-! ## Sets with a letter or a name of their own -/

/-- The digits. -/
def digitSet : CharSet := .range 0x30 0x39

/-- The capital letters. -/
def upperSet : CharSet := .range 0x41 0x5A

/-- The small letters. -/
def lowerSet : CharSet := .range 0x61 0x7A

/-- The letters. -/
def letterSet : CharSet := .union upperSet lowerSet

/-- The blanks. -/
def blankSet : CharSet := .union (.range 0x09 0x0D) (.single ' ')

/-- The characters of words. -/
def wordSet : CharSet := .union (.union letterSet digitSet) (.single '_')

/-- The controls. -/
def controlSet : CharSet := .union (.range 0 0x1F) (.single '\x7F')

/-- The punctuation marks and symbols. -/
def punctSet : CharSet := .diff (.range 0x21 0x7E) (.union letterSet digitSet)

/-- The sets that are named between colons. -/
def colonSets : List (String × CharSet) :=
  [("alnum", .union letterSet digitSet), ("alpha", letterSet), ("ascii", .range 0 0x7F),
    ("blank", .ofText "\t "), ("cntrl", controlSet), ("digit", digitSet),
    ("graph", .range 0x21 0x7E), ("lower", lowerSet), ("print", .range 0x20 0x7E),
    ("punct", punctSet), ("space", blankSet), ("upper", upperSet), ("word", wordSet),
    ("xdigit", .union digitSet (.union (.range 0x41 0x46) (.range 0x61 0x66)))]

/-! ## Properties -/

/-- The name of a property without the signs that do not count in it. -/
def plainName (name : List Char) : List Char :=
  let named (cs : List Char) : List Char :=
    (cs.filter fun c ↦ !(c = ' ' || c = '_' || c = '-') && c.toNat < 0x80).map Char.toLower
  match name with
  | a :: b :: rest =>
    if a.toLower = 'i' ∧ b.toLower = 's' then
      if named rest = ['c'] then "isc".toList else named rest
    else named name
  | _ => named name

/-- The sets for a list of names, several names to a set. -/
def namedSet? (table : List (String × CharSet)) (name : List Char) : Option CharSet :=
  (table.find? fun (names, _) ↦ (names.splitOn " ").any (·.toList = name)).map Prod.snd

/-- The general categories. -/
def categories : List (String × CharSet) :=
  [("any", .all), ("assigned", .all), ("ascii", .range 0 0x7F),
    ("l letter lc casedletter", letterSet), ("lu uppercaseletter", upperSet),
    ("ll lowercaseletter", lowerSet), ("n number nd decimalnumber digit", digitSet),
    ("p punctuation punct", .diff punctSet (.ofText "$+<=>^\x60|~")),
    ("pc connectorpunctuation", .single '_'), ("pd dashpunctuation", .single '-'),
    ("ps openpunctuation", .ofText "([\x7b"), ("pe closepunctuation", .ofText ")]\x7d"),
    ("po otherpunctuation", .ofText "!\"#%&'*,./:;?@\\"),
    ("s symbol", .ofText "$+<=>^\x60|~"), ("sm mathsymbol", .ofText "+<=>|~"),
    ("sc currencysymbol", .single '$'), ("sk modifiersymbol", .ofText "^\x60"),
    ("z separator zs spaceseparator", .single ' '), ("c other cc control cntrl", controlSet),
    ("cf format cn unassigned co privateuse cs surrogate lm modifierletter lo otherletter " ++
      "lt titlecaseletter m mark combiningmark mc spacingmark me enclosingmark mn " ++
      "nonspacingmark nl letternumber no othernumber pf finalpunctuation pi " ++
      "initialpunctuation so othersymbol zl lineseparator zp paragraphseparator", .empty)]

/-- The properties that a character has or has not. -/
def properties : List (String × CharSet) :=
  [("asciihexdigit ahex hexdigit hex",
      .union digitSet (.union (.range 0x41 0x46) (.range 0x61 0x66))),
    ("alphabetic alpha cased changeswhencasemapped cwcm idstart ids xidstart xids", letterSet),
    ("lowercase lower changeswhentitlecased cwt changeswhenuppercased cwu", lowerSet),
    ("uppercase upper changeswhencasefolded cwcf changeswhenlowercased cwl", upperSet),
    ("idcontinue idc xidcontinue xidc", wordSet), ("whitespace wspace space", blankSet),
    ("patternwhitespace patws", blankSet), ("patternsyntax patsyn", .diff punctSet (.single '_')),
    ("caseignorable ci", .ofText "'.:^\x60"), ("dash", .single '-'),
    ("diacritic dia", .ofText "^\x60"),
    ("emoji emojicomponent ecomp", .union digitSet (.ofText "#*")),
    ("graphemebase grbase", .range 0x20 0x7E), ("math", .ofText "+<=>^|~"),
    ("bidimirrored bidim", .ofText "()<>[]\x7b\x7d"), ("othermath omath", .single '^'),
    ("quotationmark qmark", .ofText "\"'"), ("sentenceterminal sterm", .ofText "!.?"),
    ("softdotted sd", .ofText "ij"), ("terminalpunctuation term", .ofText "!,.:;?"),
    ("bidicontrol bidic defaultignorablecodepoint di deprecated dep emojimodifier emod " ++
      "emojimodifierbase ebase emojipresentation epres extendedpictographic extpict extender " ++
      "ext graphemeextend grext idsbinaryoperator idsb idstrinaryoperator idst " ++
      "idsunaryoperator idsu idcompatmathcontinue idcompatmathstart ideographic ideo " ++
      "joincontrol joinc logicalorderexception loe modifiercombiningmark mcm " ++
      "noncharactercodepoint nchar otheralphabetic oalpha otherdefaultignorablecodepoint odi " ++
      "othergraphemeextend ogrext otheridcontinue oidc otheridstart oids otherlowercase olower " ++
      "otheruppercase oupper prependedconcatenationmark pcm radical regionalindicator ri " ++
      "unifiedideograph uideo variationselector vs", .empty)]

/-- The scripts. -/
def scripts : List (String × CharSet) :=
  [("latin latn", letterSet), ("common zyyy", .diff (.range 0 0x7F) letterSet),
    ("adlam adlm ahom arabic arab armenian armn avestan avst balinese bali bamum bamu bassavah " ++
      "bass batak batk bengali beng bhaiksuki bhks bopomofo bopo brahmi brah braille brai " ++
      "buginese bugi buhid buhd canadianaboriginal cans carian cari caucasianalbanian aghb " ++
      "chakma cakm cham cherokee cher chorasmian chrs coptic copt qaac cuneiform xsux cypriot " ++
      "cprt cyprominoan cpmn cyrillic cyrl deseret dsrt devanagari deva divesakuru diak dogra " ++
      "dogr duployan dupl egyptianhieroglyphs egyp elbasan elba elymaic elym ethiopic ethi " ++
      "garay gara georgian geor glagolitic glag gothic goth grantha gran greek grek gujarati " ++
      "gujr gunjalagondi gong gurmukhi guru gurungkhema gukh han hani hangul hang " ++
      "hanifirohingya rohg hanunoo hano hatran hatr hebrew hebr hiragana hira imperialaramaic " ++
      "armi inherited zinh qaai inscriptionalpahlavi phli inscriptionalparthian prti javanese " ++
      "java kaithi kthi kannada knda katakana kana kawi kayahli kali kharoshthi khar " ++
      "khitansmallscript kits khmer khmr khojki khoj khudawadi sind kiratrai krai lao laoo " ++
      "lepcha lepc limbu limb lineara lina linearb linb lisu lycian lyci lydian lydi mahajani " ++
      "mahj makasar maka malayalam mlym mandaic mand manichaean mani marchen marc " ++
      "masaramgondi gonm medefaidrin medf meeteimayek mtei mendekikakui mend " ++
      "meroiticcursive merc meroitichieroglyphs mero miao plrd modi mongolian mong mro mroo " ++
      "multani mult myanmar mymr nabataean nbat nagmundari nagm nandinagari nand newtailue " ++
      "talu newa nko nkoo nushu nshu nyiakengpuachuehmong hmnp ogham ogam olchiki olck " ++
      "oldhungarian hung olditalic ital oldnortharabian narb oldpermic perm oldpersian xpeo " ++
      "oldsogdian sogo oldsoutharabian sarb oldturkic orkh olduyghur ougr olonal onao oriya " ++
      "orya osage osge osmanya osma pahawhhmong hmng palmyrene palm paucinhau pauc phagspa " ++
      "phag phoenician phnx psalterpahlavi phlp rejang rjng runic runr samaritan samr " ++
      "saurashtra saur sharada shrd shavian shaw siddham sidd signwriting sgnw sinhala sinh " ++
      "sogdian sogd sorasompeng sora soyombo soyo sundanese sund sunuwar sunu sylotinagri " ++
      "sylo syriac syrc tagalog tglg tagbanwa tagb taile tale taitham lana taiviet tavt takri " ++
      "takr tamil taml tangsa tnsa tangut tang telugu telu thaana thaa thai tibetan tibt " ++
      "tifinagh tfng tirhuta tirh todhri todr toto tulutigalari tutg ugaritic ugar vai vaii " ++
      "vithkuqi vith wancho wcho warangciti wara yezidi yezi yi yiii zanabazarsquare zanb",
      .empty)]

/-- A property as a pattern asks for it: by its name, or by its name and a value. -/
inductive PropertyName where
  | alone (name : List Char)
  | valued (name value : List Char)
deriving DecidableEq

/-- The members of a property. -/
def PropertyName.set? : PropertyName → Except FaultKind CharSet
  | .alone name =>
    let name := plainName name
    let found := ((namedSet? properties name).orElse fun _ ↦ namedSet? categories name).orElse
      fun _ ↦ namedSet? scripts name
    match found with
    | some set => .ok set
    | none => .error .propertyUnknown
  | .valued name value =>
    let name := String.ofList (plainName name)
    let table :=
      if name = "gc" ∨ name = "generalcategory" then some categories
      else if name = "sc" ∨ name = "script" ∨ name = "scx" ∨ name = "scriptextensions" then
        some scripts
      else none
    match table with
    | none => .error .propertyUnknown
    | some table =>
      match namedSet? table (plainName value) with
      | some set => .ok set
      | none => .error .propertyValueUnknown

end ChatHook.Pattern
