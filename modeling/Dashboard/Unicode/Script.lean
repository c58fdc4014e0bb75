import Dashboard.Unicode.Runs

/-!
# Scripts

The properties Script and Script_Extensions of Unicode 16.0. The extensions of a
character are the scripts that use it; they are listed only where they differ
from the character's own script.
-/

namespace Dashboard.Unicode.Script

/-- The runs of code points of one script, by the four-letter names. -/
def runs : List Run := readRuns 4
  ["65Zyyy26Latn6Zyyy26Latn47ZyyyLatn15ZyyyLatn5Zyyy23LatnZyyy31LatnZyyy449Latn39Zyyy5Latn5Zyyy",
   "2Bopo20Zyyy112Zinh4GrekZyyy3Grek2Zzzz4GrekZyyyGrek4ZzzzGrekZyyyGrekZyyy3GrekZzzzGrekZzzz",
   "20GrekZzzz63Grek14Copt16Grek133Cyrl2Zinh169CyrlZzzz38Armn2Zzzz50Armn2Zzzz3ArmnZzzz55Hebr",
   "8Zzzz27Hebr4Zzzz6Hebr11Zzzz5ArabZyyy6ArabZyyy14ArabZyyy3ArabZyyy32ArabZyyy10Arab11Zinh26Arab",
   "Zinh108ArabZyyy34Arab14SyrcZzzz60Syrc2Zzzz3Syrc48Arab50Thaa14Zzzz59Nkoo2Zzzz3Nkoo46Samr2Zzzz",
   "15SamrZzzz28Mand2ZzzzMandZzzz11Syrc5Zzzz31ArabZzzz2Arab5Zzzz75ArabZyyy29Arab81Deva4Zinh",
   "15Deva2Zyyy26Deva4BengZzzz8Beng2Zzzz2Beng2Zzzz22BengZzzz7BengZzzzBeng3Zzzz4Beng2Zzzz9Beng",
   "2Zzzz2Beng2Zzzz4Beng8ZzzzBeng4Zzzz2BengZzzz5Beng2Zzzz25Beng2Zzzz3GuruZzzz6Guru4Zzzz2Guru",
   "2Zzzz22GuruZzzz7GuruZzzz2GuruZzzz2GuruZzzz2Guru2ZzzzGuruZzzz5Guru4Zzzz2Guru2Zzzz3Guru3Zzzz",
   "Guru7Zzzz4GuruZzzzGuru7Zzzz17Guru10Zzzz3GujrZzzz9GujrZzzz3GujrZzzz22GujrZzzz7GujrZzzz2Gujr",
   "Zzzz5Gujr2Zzzz10GujrZzzz3GujrZzzz3Gujr2ZzzzGujr15Zzzz4Gujr2Zzzz12Gujr7Zzzz7GujrZzzz3OryaZzzz",
   "8Orya2Zzzz2Orya2Zzzz22OryaZzzz7OryaZzzz2OryaZzzz5Orya2Zzzz9Orya2Zzzz2Orya2Zzzz3Orya7Zzzz",
   "3Orya4Zzzz2OryaZzzz5Orya2Zzzz18Orya10Zzzz2TamlZzzz6Taml3Zzzz3TamlZzzz4Taml3Zzzz2TamlZzzzTaml",
   "Zzzz2Taml3Zzzz2Taml3Zzzz3Taml3Zzzz12Taml4Zzzz5Taml3Zzzz3TamlZzzz4Taml2ZzzzTaml6ZzzzTaml",
   "14Zzzz21Taml5Zzzz13TeluZzzz3TeluZzzz23TeluZzzz16Telu2Zzzz9TeluZzzz3TeluZzzz4Telu7Zzzz2Telu",
   "Zzzz3Telu2ZzzzTelu2Zzzz4Telu2Zzzz10Telu7Zzzz9Telu13KndaZzzz3KndaZzzz23KndaZzzz10KndaZzzz",
   "5Knda2Zzzz9KndaZzzz3KndaZzzz4Knda7Zzzz2Knda6Zzzz2KndaZzzz4Knda2Zzzz10KndaZzzz3Knda12Zzzz",
   "13MlymZzzz3MlymZzzz51MlymZzzz3MlymZzzz6Mlym4Zzzz16Mlym2Zzzz26MlymZzzz3SinhZzzz18Sinh3Zzzz",
   "24SinhZzzz9SinhZzzzSinh2Zzzz7Sinh3ZzzzSinh4Zzzz6SinhZzzzSinhZzzz8Sinh6Zzzz10Sinh2Zzzz3Sinh",
   "12Zzzz58Thai4ZzzzZyyy28Thai37Zzzz2LaooZzzzLaooZzzz5LaooZzzz24LaooZzzzLaooZzzz23Laoo2Zzzz",
   "5LaooZzzzLaooZzzz7LaooZzzz10Laoo2Zzzz4Laoo32Zzzz72TibtZzzz36Tibt4Zzzz39TibtZzzz36TibtZzzz",
   "15TibtZzzz7Tibt4Zyyy2Tibt37Zzzz160Mymr38GeorZzzzGeor5ZzzzGeor2Zzzz43GeorZyyy4Geor256Hang",
   "73EthiZzzz4Ethi2Zzzz7EthiZzzzEthiZzzz4Ethi2Zzzz41EthiZzzz4Ethi2Zzzz33EthiZzzz4Ethi2Zzzz7Ethi",
   "ZzzzEthiZzzz4Ethi2Zzzz15EthiZzzz57EthiZzzz4Ethi2Zzzz67Ethi2Zzzz32Ethi3Zzzz26Ethi6Zzzz86Cher",
   "2Zzzz6Cher2Zzzz640Cans29Ogam3Zzzz75Runr3Zyyy11Runr7Zzzz22Tglg9ZzzzTglg21Hano2Zyyy9Zzzz20Buhd",
   "12Zzzz13TagbZzzz3TagbZzzz2Tagb12Zzzz94Khmr2Zzzz10Khmr6Zzzz10Khmr6Zzzz2Mong2ZyyyMongZyyy",
   "20Mong6Zzzz89Mong7Zzzz43Mong5Zzzz70Cans10Zzzz31LimbZzzz12Limb4Zzzz12Limb4ZzzzLimb3Zzzz12Limb",
   "30Tale2Zzzz5Tale11Zzzz44Talu4Zzzz26Talu6Zzzz11Talu3Zzzz2Talu32Khmr28Bugi2Zzzz2Bugi63LanaZzzz",
   "29Lana2Zzzz11Lana6Zzzz10Lana6Zzzz14Lana2Zzzz31Zinh49Zzzz77BaliZzzz50Bali64Sund52Batk8Zzzz",
   "4Batk56Lepc3Zzzz15Lepc3Zzzz3Lepc48Olck11Cyrl5Zzzz43Geor2Zzzz3Geor8Sund8Zzzz3ZinhZyyy13Zinh",
   "Zyyy7Zinh4ZyyyZinh6ZyyyZinh3Zyyy2ZinhZyyy5Zzzz38Latn5GrekCyrl49Latn5Grek4Latn5Grek13LatnCyrl",
   "70LatnGrek64Zinh256Latn22Grek2Zzzz6Grek2Zzzz38Grek2Zzzz6Grek2Zzzz8GrekZzzzGrekZzzzGrekZzzz",
   "GrekZzzz31Grek2Zzzz53GrekZzzz15GrekZzzz14Grek2Zzzz6GrekZzzz19Grek2Zzzz3GrekZzzz9GrekZzzz",
   "12Zyyy2Zinh87ZyyyZzzz11ZyyyLatn2Zzzz11ZyyyLatn15ZyyyZzzz13Latn3Zzzz33Zyyy15Zzzz33Zinh15Zzzz",
   "38ZyyyGrek3Zyyy2Latn6ZyyyLatn27ZyyyLatn17Zyyy41Latn3Zyyy4Zzzz666Zyyy22Zzzz11Zyyy21Zzzz",
   "928Zyyy256Brai628Zyyy2Zzzz32ZyyyZzzz105Zyyy96Glag32Latn116Copt5Zzzz7Copt38GeorZzzzGeor5Zzzz",
   "Geor2Zzzz56Tfng7Zzzz2Tfng14ZzzzTfng23Ethi9Zzzz7EthiZzzz7EthiZzzz7EthiZzzz7EthiZzzz7EthiZzzz",
   "7EthiZzzz7EthiZzzz7EthiZzzz32Cyrl94Zyyy34Zzzz26HaniZzzz89Hani12Zzzz214Hani26Zzzz21ZyyyHani",
   "ZyyyHani25Zyyy9Hani4Zinh2Hang8Zyyy4Hani4ZyyyZzzz86Hira2Zzzz2Zinh2Zyyy3HiraZyyy90Kana2Zyyy",
   "3Kana5Zzzz43BopoZzzz94HangZzzz16Zyyy32Bopo38Zyyy9ZzzzZyyy16Kana31HangZzzz64Zyyy31Hang81Zyyy",
   "47KanaZyyy88Kana168Zyyy6592Hani64Zyyy20992Hani1165Yiii3Zzzz55Yiii9Zzzz48Lisu300Vaii20Zzzz",
   "96Cyrl88Bamu8Zzzz34Zyyy102Latn3Zyyy67Latn2Zzzz2LatnZzzzLatnZzzz8Latn21Zzzz14Latn45Sylo3Zzzz",
   "10Zyyy6Zzzz56Phag8Zzzz70Saur8Zzzz12Saur6Zzzz32Deva46KaliZyyyKali36Rjng11ZzzzRjng29Hang3Zzzz",
   "78JavaZzzzZyyy10Java4Zzzz2Java31MymrZzzz55Cham9Zzzz14Cham2Zzzz10Cham2Zzzz4Cham32Mymr67Tavt",
   "24Zzzz5Tavt23Mtei10Zzzz6Ethi2Zzzz6Ethi2Zzzz6Ethi9Zzzz7EthiZzzz7EthiZzzz43LatnZyyy9LatnGrek",
   "4Latn2Zyyy4Zzzz80Cher46Mtei2Zzzz10Mtei6Zzzz11172Hang12Zzzz23Hang4Zzzz49Hang8452Zzzz366Hani",
   "2Zzzz106Hani38Zzzz7Latn12Zzzz5Armn5Zzzz26HebrZzzz5HebrZzzzHebrZzzz2HebrZzzz2HebrZzzz10Hebr",
   "115Arab16Zzzz363Arab2Zyyy80Arab2Zzzz54Arab7ZzzzArab32Zzzz16Arab16Zinh10Zyyy6Zzzz14Zinh2Cyrl",
   "35ZyyyZzzz19ZyyyZzzz4Zyyy4Zzzz5ArabZzzz135Arab2ZzzzZyyyZzzz32Zyyy26Latn6Zyyy26Latn11Zyyy",
   "10KanaZyyy45Kana2Zyyy31Hang3Zzzz6Hang2Zzzz6Hang2Zzzz6Hang2Zzzz3Hang3Zzzz7ZyyyZzzz7Zyyy10Zzzz",
   "5Zyyy2Zzzz12LinbZzzz26LinbZzzz19LinbZzzz2LinbZzzz15Linb2Zzzz14Linb34Zzzz123Linb5Zzzz3Zyyy",
   "4Zzzz45Zyyy3Zzzz9Zyyy79GrekZzzz13Zyyy3ZzzzGrek47Zzzz45ZyyyZinh130Zzzz29Lyci3Zzzz49Cari15Zzzz",
   "Zinh27Zyyy4Zzzz36Ital9Zzzz3Ital27Goth5Zzzz43Perm5Zzzz30UgarZzzzUgar36Xpeo4Zzzz14Xpeo42Zzzz",
   "80Dsrt48Shaw30Osma2Zzzz10Osma6Zzzz36Osge4Zzzz36Osge4Zzzz40Elba8Zzzz52Aghb11ZzzzAghb11Vith",
   "Zzzz15VithZzzz7VithZzzz2VithZzzz11VithZzzz15VithZzzz7VithZzzz2Vith3Zzzz52Todr12Zzzz311Lina",
   "9Zzzz22Lina10Zzzz8Lina24Zzzz6LatnZzzz42LatnZzzz9Latn69Zzzz6Cprt2ZzzzCprtZzzz44CprtZzzz2Cprt",
   "3ZzzzCprt2ZzzzCprt22ArmiZzzz9Armi32Palm31Nbat8Zzzz9Nbat48Zzzz19HatrZzzz2Hatr5Zzzz5Hatr28Phnx",
   "3ZzzzPhnx26Lydi5ZzzzLydi64Zzzz32Mero24Merc4Zzzz20Merc2Zzzz46Merc4KharZzzz2Khar5Zzzz8KharZzzz",
   "3KharZzzz29Khar2Zzzz3Khar4Zzzz10Khar7Zzzz9Khar7Zzzz32Sarb32Narb32Zzzz39Mani4Zzzz12Mani9Zzzz",
   "54Avst3Zzzz7Avst22Prti2Zzzz8Prti19Phli5Zzzz8Phli18Phlp7Zzzz4Phlp12Zzzz7Phlp80Zzzz73Orkh",
   "55Zzzz51Hung13Zzzz51Hung7Zzzz6Hung40Rohg8Zzzz10Rohg6Zzzz38Gara3Zzzz29Gara8Zzzz2Gara208Zzzz",
   "31ArabZzzz42YeziZzzz3Yezi2Zzzz2Yezi16Zzzz3Arab55Zzzz4Arab40Sogo8Zzzz42Sogd22Zzzz26Ougr38Zzzz",
   "28Chrs20Zzzz23Elym9Zzzz78Brah4Zzzz36Brah9ZzzzBrah67Kthi10ZzzzKthi2Zzzz25Sora7Zzzz10Sora6Zzzz",
   "53CakmZzzz18Cakm8Zzzz39Mahj9Zzzz96ShrdZzzz20Sinh11Zzzz18KhojZzzz47Khoj62Zzzz7MultZzzzMult",
   "Zzzz4MultZzzz15MultZzzz11Mult6Zzzz59Sind5Zzzz10Sind6Zzzz4GranZzzz8Gran2Zzzz2Gran2Zzzz22Gran",
   "Zzzz7GranZzzz2GranZzzz5GranZzzzZinh9Gran2Zzzz2Gran2Zzzz3Gran2ZzzzGran6ZzzzGran5Zzzz7Gran",
   "2Zzzz7Gran3Zzzz5Gran11Zzzz10TutgZzzzTutg2ZzzzTutgZzzz38TutgZzzz10TutgZzzzTutg2ZzzzTutgZzzz",
   "4TutgZzzz10TutgZzzz2Tutg8Zzzz2Tutg29Zzzz92NewaZzzz5Newa30Zzzz72Tirh8Zzzz10Tirh166Zzzz54Sidd",
   "2Zzzz38Sidd34Zzzz69Modi11Zzzz10Modi6Zzzz13Mong19Zzzz58Takr6Zzzz10Takr6Zzzz20Mymr28Zzzz27Ahom",
   "2Zzzz15Ahom4Zzzz23Ahom185Zzzz60Dogr100Zzzz83Wara12ZzzzWara7Diak2ZzzzDiak2Zzzz8DiakZzzz2Diak",
   "Zzzz30DiakZzzz2Diak2Zzzz12Diak9Zzzz10Diak70Zzzz8Nand2Zzzz46Nand2Zzzz11Nand27Zzzz72Zanb8Zzzz",
   "83Soyo13Zzzz16Cans57Pauc7Zzzz10Deva182Zzzz34Sunu14Zzzz10Sunu6Zzzz9BhksZzzz45BhksZzzz14Bhks",
   "10Zzzz29Bhks3Zzzz32Marc2Zzzz22MarcZzzz14Marc73Zzzz7GonmZzzz2GonmZzzz44Gonm3ZzzzGonmZzzz2Gonm",
   "Zzzz9Gonm8Zzzz10Gonm6Zzzz6GongZzzz2GongZzzz37GongZzzz2GongZzzz6Gong7Zzzz10Gong310Zzzz25Maka",
   "7Zzzz17KawiZzzz41Kawi3Zzzz29Kawi85ZzzzLisu15Zzzz50Taml13ZzzzTaml922Xsux102Zzzz111XsuxZzzz",
   "5Xsux11Zzzz196Xsux2636Zzzz99Cpmn13Zzzz1110Egyp10Zzzz3995Egyp5Zzzz583Hluw6841Zzzz58Gukh",
   "1734Zzzz569Bamu7Zzzz31MrooZzzz10Mroo4Zzzz2Mroo79TnsaZzzz10Tnsa6Zzzz30Bass2Zzzz6Bass10Zzzz",
   "70Hmng10Zzzz10HmngZzzz7HmngZzzz21Hmng5Zzzz19Hmng432Zzzz58Krai198Zzzz91Medf101Zzzz75Plrd4Zzzz",
   "57Plrd7Zzzz17Plrd64ZzzzTangNshu2HaniKits11Zzzz2Hani14Zzzz6136Tang8Zzzz768Tang470Kits41Zzzz",
   "Kits9Tang8935Zzzz4KanaZzzz7KanaZzzz2KanaZzzzKana287Hira3Kana15ZzzzHira29Zzzz3Hira2ZzzzKana",
   "14Zzzz4Kana8Zzzz396Nshu2308Zzzz107Dupl5Zzzz13Dupl3Zzzz9Dupl7Zzzz10Dupl2Zzzz4Dupl4Zyyy",
   "3932Zzzz250Zyyy6Zzzz436Zyyy76Zzzz46Zinh2Zzzz23Zinh9Zzzz116Zyyy60Zzzz246Zyyy10Zzzz39Zyyy2Zzzz",
   "62Zyyy3Zinh17Zyyy8Zinh2Zyyy7Zinh30Zyyy4Zinh61Zyyy21Zzzz70Grek122Zzzz20Zyyy12Zzzz20Zyyy12Zzzz",
   "87Zyyy9Zzzz25Zyyy135Zzzz85ZyyyZzzz71ZyyyZzzz2Zyyy2ZzzzZyyy2Zzzz2Zyyy2Zzzz4ZyyyZzzz12ZyyyZzzz",
   "ZyyyZzzz7ZyyyZzzz65ZyyyZzzz4Zyyy2Zzzz8ZyyyZzzz7ZyyyZzzz28ZyyyZzzz4ZyyyZzzz5ZyyyZzzzZyyy3Zzzz",
   "7ZyyyZzzz340Zyyy2Zzzz292Zyyy2Zzzz50Zyyy652Sgnw15Zzzz5SgnwZzzz15Sgnw1104Zzzz31Latn6Zzzz6Latn",
   "213Zzzz7GlagZzzz17Glag2Zzzz7GlagZzzz2GlagZzzz5Glag5Zzzz62Cyrl33ZzzzCyrl112Zzzz45Hmnp3Zzzz",
   "14Hmnp2Zzzz10Hmnp4Zzzz2Hmnp320Zzzz31Toto17Zzzz58Wcho5ZzzzWcho464Zzzz42Nagm214Zzzz43Onao4Zzzz",
   "Onao480Zzzz7EthiZzzz4EthiZzzz2EthiZzzz15EthiZzzz197Mend2Zzzz16Mend41Zzzz76Adlm4Zzzz10Adlm",
   "4Zzzz2Adlm785Zzzz68Zyyy76Zzzz61Zyyy194Zzzz4ArabZzzz27ArabZzzz2ArabZzzzArab2ZzzzArabZzzz",
   "10ArabZzzz4ArabZzzzArabZzzzArab6ZzzzArab4ZzzzArabZzzzArabZzzzArabZzzz3ArabZzzz2ArabZzzzArab",
   "2ZzzzArabZzzzArabZzzzArabZzzzArabZzzzArabZzzz2ArabZzzzArab2Zzzz4ArabZzzz7ArabZzzz4ArabZzzz",
   "4ArabZzzzArabZzzz10ArabZzzz17Arab5Zzzz3ArabZzzz5ArabZzzz17Arab52Zzzz2Arab270Zzzz44Zyyy4Zzzz",
   "100Zyyy12Zzzz15Zyyy2Zzzz15ZyyyZzzz15ZyyyZzzz37Zyyy10Zzzz174Zyyy56Zzzz26ZyyyHira2Zyyy13Zzzz",
   "44Zyyy4Zzzz9Zyyy7Zzzz2Zyyy14Zzzz6Zyyy154Zzzz984Zyyy4Zzzz17Zyyy3Zzzz13Zyyy3Zzzz119Zyyy4Zzzz",
   "95Zyyy6Zzzz12Zyyy4ZzzzZyyy15Zzzz12Zyyy4Zzzz56Zyyy8Zzzz10Zyyy6Zzzz40Zyyy8Zzzz30Zyyy2Zzzz",
   "12Zyyy4Zzzz2Zyyy62Zzzz340Zyyy12Zzzz14Zyyy2Zzzz13Zyyy3Zzzz10Zyyy5Zzzz56Zyyy7Zzzz15Zyyy2Zzzz",
   "11Zyyy6Zzzz9Zyyy7Zzzz147ZyyyZzzz102Zyyy1030Zzzz42720Hani32Zzzz4154Hani6Zzzz222Hani2Zzzz",
   "5762Hani14Zzzz7473Hani15Zzzz622Hani2466Zzzz542Hani1506Zzzz4939Hani5Zzzz4192Hani711761Zzzz",
   "Zyyy30Zzzz96Zyyy128Zzzz240Zinh196112Zzzz"]

/-- The four-letter names with the long names in loose form. -/
def names : List (String × List String) :=
  [("Adlm", ["adlam"]), ("Aghb", ["caucasianalbanian"]), ("Ahom", ["ahom"]), ("Arab", ["arabic"]),
   ("Armi", ["imperialaramaic"]), ("Armn", ["armenian"]), ("Avst", ["avestan"]),
   ("Bali", ["balinese"]), ("Bamu", ["bamum"]), ("Bass", ["bassavah"]), ("Batk", ["batak"]),
   ("Beng", ["bengali"]), ("Bhks", ["bhaiksuki"]), ("Bopo", ["bopomofo"]), ("Brah", ["brahmi"]),
   ("Brai", ["braille"]), ("Bugi", ["buginese"]), ("Buhd", ["buhid"]), ("Cakm", ["chakma"]),
   ("Cans", ["canadianaboriginal"]), ("Cari", ["carian"]), ("Cham", ["cham"]),
   ("Cher", ["cherokee"]), ("Chrs", ["chorasmian"]), ("Copt", ["coptic", "qaac"]),
   ("Cpmn", ["cyprominoan"]), ("Cprt", ["cypriot"]), ("Cyrl", ["cyrillic"]),
   ("Deva", ["devanagari"]), ("Diak", ["divesakuru"]), ("Dogr", ["dogra"]), ("Dsrt", ["deseret"]),
   ("Dupl", ["duployan"]), ("Egyp", ["egyptianhieroglyphs"]), ("Elba", ["elbasan"]),
   ("Elym", ["elymaic"]), ("Ethi", ["ethiopic"]), ("Gara", ["garay"]), ("Geor", ["georgian"]),
   ("Glag", ["glagolitic"]), ("Gong", ["gunjalagondi"]), ("Gonm", ["masaramgondi"]),
   ("Goth", ["gothic"]), ("Gran", ["grantha"]), ("Grek", ["greek"]), ("Gujr", ["gujarati"]),
   ("Gukh", ["gurungkhema"]), ("Guru", ["gurmukhi"]), ("Hang", ["hangul"]), ("Hani", ["han"]),
   ("Hano", ["hanunoo"]), ("Hatr", ["hatran"]), ("Hebr", ["hebrew"]), ("Hira", ["hiragana"]),
   ("Hluw", ["anatolianhieroglyphs"]), ("Hmng", ["pahawhhmong"]),
   ("Hmnp", ["nyiakengpuachuehmong"]), ("Hung", ["oldhungarian"]), ("Ital", ["olditalic"]),
   ("Java", ["javanese"]), ("Kali", ["kayahli"]), ("Kana", ["katakana"]), ("Kawi", ["kawi"]),
   ("Khar", ["kharoshthi"]), ("Khmr", ["khmer"]), ("Khoj", ["khojki"]),
   ("Kits", ["khitansmallscript"]), ("Knda", ["kannada"]), ("Krai", ["kiratrai"]),
   ("Kthi", ["kaithi"]), ("Lana", ["taitham"]), ("Laoo", ["lao"]), ("Latn", ["latin"]),
   ("Lepc", ["lepcha"]), ("Limb", ["limbu"]), ("Lina", ["lineara"]), ("Linb", ["linearb"]),
   ("Lisu", ["lisu"]), ("Lyci", ["lycian"]), ("Lydi", ["lydian"]), ("Mahj", ["mahajani"]),
   ("Maka", ["makasar"]), ("Mand", ["mandaic"]), ("Mani", ["manichaean"]), ("Marc", ["marchen"]),
   ("Medf", ["medefaidrin"]), ("Mend", ["mendekikakui"]), ("Merc", ["meroiticcursive"]),
   ("Mero", ["meroitichieroglyphs"]), ("Mlym", ["malayalam"]), ("Modi", ["modi"]),
   ("Mong", ["mongolian"]), ("Mroo", ["mro"]), ("Mtei", ["meeteimayek"]), ("Mult", ["multani"]),
   ("Mymr", ["myanmar"]), ("Nagm", ["nagmundari"]), ("Nand", ["nandinagari"]),
   ("Narb", ["oldnortharabian"]), ("Nbat", ["nabataean"]), ("Newa", ["newa"]), ("Nkoo", ["nko"]),
   ("Nshu", ["nushu"]), ("Ogam", ["ogham"]), ("Olck", ["olchiki"]), ("Onao", ["olonal"]),
   ("Orkh", ["oldturkic"]), ("Orya", ["oriya"]), ("Osge", ["osage"]), ("Osma", ["osmanya"]),
   ("Ougr", ["olduyghur"]), ("Palm", ["palmyrene"]), ("Pauc", ["paucinhau"]),
   ("Perm", ["oldpermic"]), ("Phag", ["phagspa"]), ("Phli", ["inscriptionalpahlavi"]),
   ("Phlp", ["psalterpahlavi"]), ("Phnx", ["phoenician"]), ("Plrd", ["miao"]),
   ("Prti", ["inscriptionalparthian"]), ("Rjng", ["rejang"]), ("Rohg", ["hanifirohingya"]),
   ("Runr", ["runic"]), ("Samr", ["samaritan"]), ("Sarb", ["oldsoutharabian"]),
   ("Saur", ["saurashtra"]), ("Sgnw", ["signwriting"]), ("Shaw", ["shavian"]),
   ("Shrd", ["sharada"]), ("Sidd", ["siddham"]), ("Sind", ["khudawadi"]), ("Sinh", ["sinhala"]),
   ("Sogd", ["sogdian"]), ("Sogo", ["oldsogdian"]), ("Sora", ["sorasompeng"]),
   ("Soyo", ["soyombo"]), ("Sund", ["sundanese"]), ("Sunu", ["sunuwar"]), ("Sylo", ["sylotinagri"]),
   ("Syrc", ["syriac"]), ("Tagb", ["tagbanwa"]), ("Takr", ["takri"]), ("Tale", ["taile"]),
   ("Talu", ["newtailue"]), ("Taml", ["tamil"]), ("Tang", ["tangut"]), ("Tavt", ["taiviet"]),
   ("Telu", ["telugu"]), ("Tfng", ["tifinagh"]), ("Tglg", ["tagalog"]), ("Thaa", ["thaana"]),
   ("Thai", ["thai"]), ("Tibt", ["tibetan"]), ("Tirh", ["tirhuta"]), ("Tnsa", ["tangsa"]),
   ("Todr", ["todhri"]), ("Toto", ["toto"]), ("Tutg", ["tulutigalari"]), ("Ugar", ["ugaritic"]),
   ("Vaii", ["vai"]), ("Vith", ["vithkuqi"]), ("Wara", ["warangciti"]), ("Wcho", ["wancho"]),
   ("Xpeo", ["oldpersian"]), ("Xsux", ["cuneiform"]), ("Yezi", ["yezidi"]), ("Yiii", ["yi"]),
   ("Zanb", ["zanabazarsquare"]), ("Zinh", ["inherited", "qaai"]), ("Zyyy", ["common"])]

/-- Ranges whose extensions differ from the script, each with the four-letter names
of its scripts. -/
def extensions : List (Nat × Nat × String) :=
  [(183, 183, "AvstCariCoptDuplElbaGeorGlagGongGothGrekHaniLatnLydiMahjPermShaw"),
   (700, 700, "BengCyrlDevaLatnLisuThaiToto"), (711, 711, "BopoLatn"), (713, 715, "BopoLatn"),
   (717, 717, "LatnLisu"), (727, 727, "LatnThai"), (729, 729, "BopoLatn"),
   (768, 768, "CherCoptCyrlGrekLatnPermSunuTale"), (769, 769, "CherCyrlGrekLatnOsgeSunuTaleTodr"),
   (770, 770, "CherCyrlLatnTfng"), (771, 771, "GlagLatnSunuSyrcThai"),
   (772, 772, "AghbCherCoptCyrlGothGrekLatnOsgeSyrcTfngTodr"),
   (773, 773, "CoptElbaGlagGothKanaLatn"), (774, 774, "CyrlGrekLatnPermTfng"),
   (775, 775, "CoptDuplHebrLatnPermSyrcTaleTfngTodr"),
   (776, 776, "ArmnCyrlDuplGothGrekHebrLatnPermSyrcTaleTfng"), (777, 777, "LatnTfng"),
   (778, 778, "DuplLatnSyrc"), (779, 779, "CherCyrlLatnOsge"), (780, 780, "CherLatnTale"),
   (781, 781, "LatnSunu"), (782, 782, "EthiLatn"), (784, 784, "LatnSunu"),
   (785, 785, "CyrlLatnTodr"), (787, 787, "GrekLatnPermTodr"),
   (803, 803, "CherDuplKanaLatnSyrcTfng"), (804, 804, "CherDuplLatnSyrc"), (805, 805, "LatnSyrc"),
   (813, 813, "LatnSunuSyrc"), (814, 814, "LatnSyrc"), (816, 816, "CherLatnSyrc"),
   (817, 817, "AghbCherGothLatnSunuSyrcThai"), (834, 834, "Grek"), (837, 837, "Grek"),
   (856, 856, "LatnOsge"), (862, 862, "AghbLatnTodr"), (867, 879, "Latn"), (884, 885, "CoptGrek"),
   (1155, 1155, "CyrlPerm"), (1156, 1156, "CyrlGlag"), (1157, 1158, "CyrlLatn"),
   (1159, 1159, "CyrlGlag"), (1417, 1417, "ArmnGeorGlag"),
   (1548, 1548, "ArabGaraNkooRohgSyrcThaaYezi"), (1563, 1563, "ArabGaraNkooRohgSyrcThaaYezi"),
   (1564, 1564, "ArabSyrcThaa"), (1567, 1567, "AdlmArabGaraNkooRohgSyrcThaaYezi"),
   (1600, 1600, "AdlmArabMandManiOugrPhlpRohgSogdSyrc"), (1611, 1621, "ArabSyrc"),
   (1632, 1641, "ArabThaaYezi"), (1648, 1648, "ArabSyrc"), (1748, 1748, "ArabRohg"),
   (2385, 2385, "BengDevaGranGujrGuruKndaLatnMlymNandNewaOryaShrdTamlTeluTirh"),
   (2386, 2386, "BengDevaGranGujrGuruKndaLatnMlymNewaOryaTamlTeluTirh"),
   (2404, 2404, "BengDevaDogrGongGonmGranGujrGuruKndaMahjMlymNandOnaoOryaSindSinhSyloTakrTamlTeluTirh"),
   (2405, 2405, "BengDevaDogrGongGonmGranGujrGukhGuruKndaLimbMahjMlymNandOnaoOryaSindSinhSyloTakrTamlTeluTirh"),
   (2406, 2415, "DevaDogrKthiMahj"), (2534, 2543, "BengCakmSylo"), (2662, 2671, "GuruMult"),
   (2790, 2799, "GujrKhoj"), (3046, 3059, "GranTaml"), (3302, 3311, "KndaNandTutg"),
   (4160, 4169, "CakmMymrTale"), (4347, 4347, "GeorGlagLatn"), (5867, 5869, "Runr"),
   (5941, 5942, "BuhdHanoTagbTglg"), (6146, 6147, "MongPhag"), (6149, 6149, "MongPhag"),
   (7376, 7376, "BengDevaGranKnda"), (7377, 7377, "Deva"), (7378, 7378, "BengDevaGranKnda"),
   (7379, 7379, "DevaGranKnda"), (7380, 7380, "Deva"), (7381, 7381, "BengDevaNewaTeluTirh"),
   (7382, 7382, "BengDevaTelu"), (7383, 7383, "DevaNewaShrd"), (7384, 7384, "BengDevaNewaTelu"),
   (7385, 7385, "DevaShrd"), (7386, 7386, "DevaKndaMlymOryaTamlTelu"), (7387, 7387, "Deva"),
   (7388, 7389, "DevaShrd"), (7390, 7391, "Deva"), (7392, 7392, "DevaShrd"),
   (7393, 7393, "BengDeva"), (7394, 7394, "DevaNewaTirh"), (7395, 7400, "Deva"),
   (7401, 7401, "DevaNandNewa"), (7402, 7402, "BengDevaShrd"), (7403, 7403, "DevaNewa"),
   (7404, 7404, "Deva"), (7405, 7405, "BengDevaNewaShrd"), (7406, 7409, "Deva"),
   (7410, 7410, "BengDevaGranKndaMlymNandOryaSinhTeluTirhTutg"), (7411, 7411, "DevaGran"),
   (7412, 7412, "DevaGranKndaTutg"), (7413, 7414, "BengDeva"), (7415, 7415, "Beng"),
   (7416, 7417, "DevaGran"), (7418, 7418, "Nand"), (7616, 7617, "Grek"),
   (7672, 7672, "CyrlLatnSyrc"), (7674, 7674, "Syrc"), (8239, 8239, "LatnMongPhag"),
   (8271, 8271, "AdlmArab"), (8282, 8282, "CariGeorGlagHungLyciOrkh"),
   (8285, 8285, "CariGrekHungMero"), (8432, 8432, "DevaGranLatn"), (11799, 11799, "CoptLatn"),
   (11824, 11824, "AvstOrkh"), (11825, 11825, "AvstCariGeorHungKthiLydiSamr"),
   (11836, 11836, "Dupl"), (11841, 11841, "AdlmArabHung"), (11843, 11843, "CyrlGlag"),
   (12272, 12287, "HaniTang"), (12289, 12289, "BopoHangHaniHiraKanaMongYiii"),
   (12290, 12290, "BopoHangHaniHiraKanaMongPhagYiii"), (12291, 12291, "BopoHangHaniHiraKana"),
   (12294, 12294, "Hani"), (12296, 12297, "BopoHangHaniHiraKanaMongTibtYiii"),
   (12298, 12299, "BopoHangHaniHiraKanaLisuMongTibtYiii"),
   (12300, 12305, "BopoHangHaniHiraKanaYiii"), (12307, 12307, "BopoHangHaniHiraKana"),
   (12308, 12315, "BopoHangHaniHiraKanaYiii"), (12316, 12319, "BopoHangHaniHiraKana"),
   (12330, 12333, "BopoHani"), (12336, 12336, "BopoHangHaniHiraKana"), (12337, 12341, "HiraKana"),
   (12343, 12343, "BopoHangHaniHiraKana"), (12348, 12349, "HaniHiraKana"), (12350, 12351, "Hani"),
   (12441, 12444, "HiraKana"), (12448, 12448, "HiraKana"),
   (12539, 12539, "BopoHangHaniHiraKanaYiii"), (12540, 12540, "HiraKana"), (12688, 12703, "Hani"),
   (12736, 12773, "Hani"), (12783, 12783, "HaniTang"), (12832, 12871, "Hani"),
   (12928, 12976, "Hani"), (12992, 13003, "Hani"), (13055, 13055, "Hani"), (13144, 13168, "Hani"),
   (13179, 13183, "Hani"), (13280, 13310, "Hani"), (42607, 42607, "CyrlGlag"),
   (42752, 42759, "HaniLatn"),
   (43056, 43058, "DevaDogrGujrGuruKhojKndaKthiMahjMlymModiNandShrdSindTakrTirhTutg"),
   (43059, 43061, "DevaDogrGujrGuruKhojKndaKthiMahjModiNandShrdSindTakrTirhTutg"),
   (43062, 43063, "DevaDogrGujrGuruKhojKthiMahjModiSindTakrTirh"),
   (43064, 43064, "DevaDogrGujrGuruKhojKthiMahjModiShrdSindTakrTirh"),
   (43065, 43065, "DevaDogrGujrGuruKhojKthiMahjModiSindTakrTirh"), (43249, 43249, "BengDevaTutg"),
   (43251, 43251, "DevaTaml"), (43310, 43310, "KaliLatnMymr"), (43471, 43471, "BugiJava"),
   (64830, 64831, "ArabNkoo"), (65010, 65010, "ArabThaa"), (65021, 65021, "ArabThaa"),
   (65093, 65094, "BopoHangHaniHiraKana"), (65377, 65381, "BopoHangHaniHiraKanaYiii"),
   (65392, 65392, "HiraKana"), (65438, 65439, "HiraKana"), (65792, 65793, "CpmnCprtLinb"),
   (65794, 65794, "CprtLinb"), (65799, 65843, "CprtLinaLinb"), (65847, 65855, "CprtLinb"),
   (66272, 66299, "ArabCopt"), (68338, 68338, "ManiOugr"), (70401, 70401, "GranTaml"),
   (70403, 70403, "GranTaml"), (70459, 70460, "GranTaml"), (73680, 73681, "GranTaml"),
   (73683, 73683, "GranTaml"), (113824, 113827, "Dupl"), (119648, 119665, "Hani"),
   (127568, 127569, "Hani")]

/-- The four-letter name of a script given by one of its names in loose form. -/
def code? (name : String) : Option String :=
  (names.find? fun script =>
    String.ofList (script.1.toList.map Char.toLower) = name || script.2.contains name).map
    Prod.fst

/-- The characters of a script. -/
def ofName? (name : String) : Option Charset :=
  (code? name).map fun code => runsWhere runs fun other => other = code

/-- The four-letter names in a list of them without separators. -/
def codesIn : List Char → List String
  | first :: second :: third :: fourth :: rest =>
    String.ofList [first, second, third, fourth] :: codesIn rest
  | _ => []

/-- The characters that a script uses. -/
def extensionsOfName? (name : String) : Option Charset :=
  (code? name).map fun code =>
    let listed := Charset.ofRanges
      (extensions.map fun extension => (extension.1, extension.2.1))
    let users := Charset.ofRanges ((extensions.filter fun extension =>
      (codesIn extension.2.2.toList).contains code).map
        fun extension => (extension.1, extension.2.1))
    ((runsWhere runs fun other => other = code).difference listed).union users

end Dashboard.Unicode.Script
