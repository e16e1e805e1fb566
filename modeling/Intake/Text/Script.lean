import Intake.Text.Ranges

/-!
# Scripts

Every code point belongs to one script, or to the common or inherited ones. `script` looks a
character up, and `scriptOfName?` finds a script by its long or short name, written in small letters
and without anything between the words.
-/

namespace Intake.Text

/-- The runs of equal script over all code points. -/
def scriptTable : List String :=
  ["0Common 41Latin 5bCommon 61Latin 7bCommon aaLatin abCommon baLatin bbCommon c0Latin d7Common",
   "d8Latin f7Common f8Latin 2b9Common 2e0Latin 2e5Common 2eaBopomofo 2ecCommon 300Inherited",
   "370Greek 374Common 375Greek 378Unknown 37aGreek 37eCommon 37fGreek 380Unknown 384Greek",
   "385Common 386Greek 387Common 388Greek 38bUnknown 38cGreek 38dUnknown 38eGreek 3a2Unknown",
   "3a3Greek 3e2Coptic 3f0Greek 400Cyrillic 485Inherited 487Cyrillic 530Unknown 531Armenian",
   "557Unknown 559Armenian 58bUnknown 58dArmenian 590Unknown 591Hebrew 5c8Unknown 5d0Hebrew",
   "5ebUnknown 5efHebrew 5f5Unknown 600Arabic 605Common 606Arabic 60cCommon 60dArabic 61bCommon",
   "61cArabic 61fCommon 620Arabic 640Common 641Arabic 64bInherited 656Arabic 670Inherited",
   "671Arabic 6ddCommon 6deArabic 700Syriac 70eUnknown 70fSyriac 74bUnknown 74dSyriac 750Arabic",
   "780Thaana 7b2Unknown 7c0Nko 7fbUnknown 7fdNko 800Samaritan 82eUnknown 830Samaritan",
   "83fUnknown 840Mandaic 85cUnknown 85eMandaic 85fUnknown 860Syriac 86bUnknown 870Arabic",
   "892Unknown 897Arabic 8e2Common 8e3Arabic 900Devanagari 951Inherited 955Devanagari 964Common",
   "966Devanagari 980Bengali 984Unknown 985Bengali 98dUnknown 98fBengali 991Unknown 993Bengali",
   "9a9Unknown 9aaBengali 9b1Unknown 9b2Bengali 9b3Unknown 9b6Bengali 9baUnknown 9bcBengali",
   "9c5Unknown 9c7Bengali 9c9Unknown 9cbBengali 9cfUnknown 9d7Bengali 9d8Unknown 9dcBengali",
   "9deUnknown 9dfBengali 9e4Unknown 9e6Bengali 9ffUnknown a01Gurmukhi a04Unknown a05Gurmukhi",
   "a0bUnknown a0fGurmukhi a11Unknown a13Gurmukhi a29Unknown a2aGurmukhi a31Unknown a32Gurmukhi",
   "a34Unknown a35Gurmukhi a37Unknown a38Gurmukhi a3aUnknown a3cGurmukhi a3dUnknown a3eGurmukhi",
   "a43Unknown a47Gurmukhi a49Unknown a4bGurmukhi a4eUnknown a51Gurmukhi a52Unknown a59Gurmukhi",
   "a5dUnknown a5eGurmukhi a5fUnknown a66Gurmukhi a77Unknown a81Gujarati a84Unknown a85Gujarati",
   "a8eUnknown a8fGujarati a92Unknown a93Gujarati aa9Unknown aaaGujarati ab1Unknown ab2Gujarati",
   "ab4Unknown ab5Gujarati abaUnknown abcGujarati ac6Unknown ac7Gujarati acaUnknown acbGujarati",
   "aceUnknown ad0Gujarati ad1Unknown ae0Gujarati ae4Unknown ae6Gujarati af2Unknown af9Gujarati",
   "b00Unknown b01Oriya b04Unknown b05Oriya b0dUnknown b0fOriya b11Unknown b13Oriya b29Unknown",
   "b2aOriya b31Unknown b32Oriya b34Unknown b35Oriya b3aUnknown b3cOriya b45Unknown b47Oriya",
   "b49Unknown b4bOriya b4eUnknown b55Oriya b58Unknown b5cOriya b5eUnknown b5fOriya b64Unknown",
   "b66Oriya b78Unknown b82Tamil b84Unknown b85Tamil b8bUnknown b8eTamil b91Unknown b92Tamil",
   "b96Unknown b99Tamil b9bUnknown b9cTamil b9dUnknown b9eTamil ba0Unknown ba3Tamil ba5Unknown",
   "ba8Tamil babUnknown baeTamil bbaUnknown bbeTamil bc3Unknown bc6Tamil bc9Unknown bcaTamil",
   "bceUnknown bd0Tamil bd1Unknown bd7Tamil bd8Unknown be6Tamil bfbUnknown c00Telugu c0dUnknown",
   "c0eTelugu c11Unknown c12Telugu c29Unknown c2aTelugu c3aUnknown c3cTelugu c45Unknown",
   "c46Telugu c49Unknown c4aTelugu c4eUnknown c55Telugu c57Unknown c58Telugu c5bUnknown",
   "c5cTelugu c5eUnknown c60Telugu c64Unknown c66Telugu c70Unknown c77Telugu c80Kannada",
   "c8dUnknown c8eKannada c91Unknown c92Kannada ca9Unknown caaKannada cb4Unknown cb5Kannada",
   "cbaUnknown cbcKannada cc5Unknown cc6Kannada cc9Unknown ccaKannada cceUnknown cd5Kannada",
   "cd7Unknown cdcKannada cdfUnknown ce0Kannada ce4Unknown ce6Kannada cf0Unknown cf1Kannada",
   "cf4Unknown d00Malayalam d0dUnknown d0eMalayalam d11Unknown d12Malayalam d45Unknown",
   "d46Malayalam d49Unknown d4aMalayalam d50Unknown d54Malayalam d64Unknown d66Malayalam",
   "d80Unknown d81Sinhala d84Unknown d85Sinhala d97Unknown d9aSinhala db2Unknown db3Sinhala",
   "dbcUnknown dbdSinhala dbeUnknown dc0Sinhala dc7Unknown dcaSinhala dcbUnknown dcfSinhala",
   "dd5Unknown dd6Sinhala dd7Unknown dd8Sinhala de0Unknown de6Sinhala df0Unknown df2Sinhala",
   "df5Unknown e01Thai e3bUnknown e3fCommon e40Thai e5cUnknown e81Lao e83Unknown e84Lao",
   "e85Unknown e86Lao e8bUnknown e8cLao ea4Unknown ea5Lao ea6Unknown ea7Lao ebeUnknown ec0Lao",
   "ec5Unknown ec6Lao ec7Unknown ec8Lao ecfUnknown ed0Lao edaUnknown edcLao ee0Unknown",
   "f00Tibetan f48Unknown f49Tibetan f6dUnknown f71Tibetan f98Unknown f99Tibetan fbdUnknown",
   "fbeTibetan fcdUnknown fceTibetan fd5Common fd9Tibetan fdbUnknown 1000Myanmar 10a0Georgian",
   "10c6Unknown 10c7Georgian 10c8Unknown 10cdGeorgian 10ceUnknown 10d0Georgian 10fbCommon",
   "10fcGeorgian 1100Hangul 1200Ethiopic 1249Unknown 124aEthiopic 124eUnknown 1250Ethiopic",
   "1257Unknown 1258Ethiopic 1259Unknown 125aEthiopic 125eUnknown 1260Ethiopic 1289Unknown",
   "128aEthiopic 128eUnknown 1290Ethiopic 12b1Unknown 12b2Ethiopic 12b6Unknown 12b8Ethiopic",
   "12bfUnknown 12c0Ethiopic 12c1Unknown 12c2Ethiopic 12c6Unknown 12c8Ethiopic 12d7Unknown",
   "12d8Ethiopic 1311Unknown 1312Ethiopic 1316Unknown 1318Ethiopic 135bUnknown 135dEthiopic",
   "137dUnknown 1380Ethiopic 139aUnknown 13a0Cherokee 13f6Unknown 13f8Cherokee 13feUnknown",
   "1400Canadian_Aboriginal 1680Ogham 169dUnknown 16a0Runic 16ebCommon 16eeRunic 16f9Unknown",
   "1700Tagalog 1716Unknown 171fTagalog 1720Hanunoo 1735Common 1737Unknown 1740Buhid 1754Unknown",
   "1760Tagbanwa 176dUnknown 176eTagbanwa 1771Unknown 1772Tagbanwa 1774Unknown 1780Khmer",
   "17deUnknown 17e0Khmer 17eaUnknown 17f0Khmer 17faUnknown 1800Mongolian 1802Common",
   "1804Mongolian 1805Common 1806Mongolian 181aUnknown 1820Mongolian 1879Unknown 1880Mongolian",
   "18abUnknown 18b0Canadian_Aboriginal 18f6Unknown 1900Limbu 191fUnknown 1920Limbu 192cUnknown",
   "1930Limbu 193cUnknown 1940Limbu 1941Unknown 1944Limbu 1950Tai_Le 196eUnknown 1970Tai_Le",
   "1975Unknown 1980New_Tai_Lue 19acUnknown 19b0New_Tai_Lue 19caUnknown 19d0New_Tai_Lue",
   "19dbUnknown 19deNew_Tai_Lue 19e0Khmer 1a00Buginese 1a1cUnknown 1a1eBuginese 1a20Tai_Tham",
   "1a5fUnknown 1a60Tai_Tham 1a7dUnknown 1a7fTai_Tham 1a8aUnknown 1a90Tai_Tham 1a9aUnknown",
   "1aa0Tai_Tham 1aaeUnknown 1ab0Inherited 1adeUnknown 1ae0Inherited 1aecUnknown 1b00Balinese",
   "1b4dUnknown 1b4eBalinese 1b80Sundanese 1bc0Batak 1bf4Unknown 1bfcBatak 1c00Lepcha",
   "1c38Unknown 1c3bLepcha 1c4aUnknown 1c4dLepcha 1c50Ol_Chiki 1c80Cyrillic 1c8bUnknown",
   "1c90Georgian 1cbbUnknown 1cbdGeorgian 1cc0Sundanese 1cc8Unknown 1cd0Inherited 1cd3Common",
   "1cd4Inherited 1ce1Common 1ce2Inherited 1ce9Common 1cedInherited 1ceeCommon 1cf4Inherited",
   "1cf5Common 1cf8Inherited 1cfaCommon 1cfbUnknown 1d00Latin 1d26Greek 1d2bCyrillic 1d2cLatin",
   "1d5dGreek 1d62Latin 1d66Greek 1d6bLatin 1d78Cyrillic 1d79Latin 1dbfGreek 1dc0Inherited",
   "1e00Latin 1f00Greek 1f16Unknown 1f18Greek 1f1eUnknown 1f20Greek 1f46Unknown 1f48Greek",
   "1f4eUnknown 1f50Greek 1f58Unknown 1f59Greek 1f5aUnknown 1f5bGreek 1f5cUnknown 1f5dGreek",
   "1f5eUnknown 1f5fGreek 1f7eUnknown 1f80Greek 1fb5Unknown 1fb6Greek 1fc5Unknown 1fc6Greek",
   "1fd4Unknown 1fd6Greek 1fdcUnknown 1fddGreek 1ff0Unknown 1ff2Greek 1ff5Unknown 1ff6Greek",
   "1fffUnknown 2000Common 200cInherited 200eCommon 2065Unknown 2066Common 2071Latin 2072Unknown",
   "2074Common 207fLatin 2080Common 208fUnknown 2090Latin 209dUnknown 20a0Common 20c2Unknown",
   "20d0Inherited 20f1Unknown 2100Common 2126Greek 2127Common 212aLatin 212cCommon 2132Latin",
   "2133Common 214eLatin 214fCommon 2160Latin 2189Common 218cUnknown 2190Common 242aUnknown",
   "2440Common 244bUnknown 2460Common 2800Braille 2900Common 2b74Unknown 2b76Common",
   "2c00Glagolitic 2c60Latin 2c80Coptic 2cf4Unknown 2cf9Coptic 2d00Georgian 2d26Unknown",
   "2d27Georgian 2d28Unknown 2d2dGeorgian 2d2eUnknown 2d30Tifinagh 2d68Unknown 2d6fTifinagh",
   "2d71Unknown 2d7fTifinagh 2d80Ethiopic 2d97Unknown 2da0Ethiopic 2da7Unknown 2da8Ethiopic",
   "2dafUnknown 2db0Ethiopic 2db7Unknown 2db8Ethiopic 2dbfUnknown 2dc0Ethiopic 2dc7Unknown",
   "2dc8Ethiopic 2dcfUnknown 2dd0Ethiopic 2dd7Unknown 2dd8Ethiopic 2ddfUnknown 2de0Cyrillic",
   "2e00Common 2e5eUnknown 2e80Han 2e9aUnknown 2e9bHan 2ef4Unknown 2f00Han 2fd6Unknown",
   "2ff0Common 3005Han 3006Common 3007Han 3008Common 3021Han 302aInherited 302eHangul 3030Common",
   "3038Han 303cCommon 3040Unknown 3041Hiragana 3097Unknown 3099Inherited 309bCommon",
   "309dHiragana 30a0Common 30a1Katakana 30fbCommon 30fdKatakana 3100Unknown 3105Bopomofo",
   "3130Unknown 3131Hangul 318fUnknown 3190Common 31a0Bopomofo 31c0Common 31e6Unknown 31efCommon",
   "31f0Katakana 3200Hangul 321fUnknown 3220Common 3260Hangul 327fCommon 32d0Katakana 32ffCommon",
   "3300Katakana 3358Common 3400Han 4dc0Common 4e00Han a000Yi a48dUnknown a490Yi a4c7Unknown",
   "a4d0Lisu a500Vai a62cUnknown a640Cyrillic a6a0Bamum a6f8Unknown a700Common a722Latin",
   "a788Common a78bLatin a7ddUnknown a7f1Latin a800Syloti_Nagri a82dUnknown a830Common",
   "a83aUnknown a840Phags_Pa a878Unknown a880Saurashtra a8c6Unknown a8ceSaurashtra a8daUnknown",
   "a8e0Devanagari a900Kayah_Li a92eCommon a92fKayah_Li a930Rejang a954Unknown a95fRejang",
   "a960Hangul a97dUnknown a980Javanese a9ceUnknown a9cfCommon a9d0Javanese a9daUnknown",
   "a9deJavanese a9e0Myanmar a9ffUnknown aa00Cham aa37Unknown aa40Cham aa4eUnknown aa50Cham",
   "aa5aUnknown aa5cCham aa60Myanmar aa80Tai_Viet aac3Unknown aadbTai_Viet aae0Meetei_Mayek",
   "aaf7Unknown ab01Ethiopic ab07Unknown ab09Ethiopic ab0fUnknown ab11Ethiopic ab17Unknown",
   "ab20Ethiopic ab27Unknown ab28Ethiopic ab2fUnknown ab30Latin ab5bCommon ab5cLatin ab65Greek",
   "ab66Latin ab6aCommon ab6cUnknown ab70Cherokee abc0Meetei_Mayek abeeUnknown abf0Meetei_Mayek",
   "abfaUnknown ac00Hangul d7a4Unknown d7b0Hangul d7c7Unknown d7cbHangul d7fcUnknown f900Han",
   "fa6eUnknown fa70Han fadaUnknown fb00Latin fb07Unknown fb13Armenian fb18Unknown fb1dHebrew",
   "fb37Unknown fb38Hebrew fb3dUnknown fb3eHebrew fb3fUnknown fb40Hebrew fb42Unknown fb43Hebrew",
   "fb45Unknown fb46Hebrew fb50Arabic fd3eCommon fd40Arabic fdd0Unknown fdf0Arabic fe00Inherited",
   "fe10Common fe1aUnknown fe20Inherited fe2eCyrillic fe30Common fe53Unknown fe54Common",
   "fe67Unknown fe68Common fe6cUnknown fe70Arabic fe75Unknown fe76Arabic fefdUnknown feffCommon",
   "ff00Unknown ff01Common ff21Latin ff3bCommon ff41Latin ff5bCommon ff66Katakana ff70Common",
   "ff71Katakana ff9eCommon ffa0Hangul ffbfUnknown ffc2Hangul ffc8Unknown ffcaHangul ffd0Unknown",
   "ffd2Hangul ffd8Unknown ffdaHangul ffddUnknown ffe0Common ffe7Unknown ffe8Common ffefUnknown",
   "fff9Common fffeUnknown 10000Linear_B 1000cUnknown 1000dLinear_B 10027Unknown 10028Linear_B",
   "1003bUnknown 1003cLinear_B 1003eUnknown 1003fLinear_B 1004eUnknown 10050Linear_B",
   "1005eUnknown 10080Linear_B 100fbUnknown 10100Common 10103Unknown 10107Common 10134Unknown",
   "10137Common 10140Greek 1018fUnknown 10190Common 1019dUnknown 101a0Greek 101a1Unknown",
   "101d0Common 101fdInherited 101feUnknown 10280Lycian 1029dUnknown 102a0Carian 102d1Unknown",
   "102e0Inherited 102e1Common 102fcUnknown 10300Old_Italic 10324Unknown 1032dOld_Italic",
   "10330Gothic 1034bUnknown 10350Old_Permic 1037bUnknown 10380Ugaritic 1039eUnknown",
   "1039fUgaritic 103a0Old_Persian 103c4Unknown 103c8Old_Persian 103d6Unknown 10400Deseret",
   "10450Shavian 10480Osmanya 1049eUnknown 104a0Osmanya 104aaUnknown 104b0Osage 104d4Unknown",
   "104d8Osage 104fcUnknown 10500Elbasan 10528Unknown 10530Caucasian_Albanian 10564Unknown",
   "1056fCaucasian_Albanian 10570Vithkuqi 1057bUnknown 1057cVithkuqi 1058bUnknown 1058cVithkuqi",
   "10593Unknown 10594Vithkuqi 10596Unknown 10597Vithkuqi 105a2Unknown 105a3Vithkuqi",
   "105b2Unknown 105b3Vithkuqi 105baUnknown 105bbVithkuqi 105bdUnknown 105c0Todhri 105f4Unknown",
   "10600Linear_A 10737Unknown 10740Linear_A 10756Unknown 10760Linear_A 10768Unknown 10780Latin",
   "10786Unknown 10787Latin 107b1Unknown 107b2Latin 107bbUnknown 10800Cypriot 10806Unknown",
   "10808Cypriot 10809Unknown 1080aCypriot 10836Unknown 10837Cypriot 10839Unknown 1083cCypriot",
   "1083dUnknown 1083fCypriot 10840Imperial_Aramaic 10856Unknown 10857Imperial_Aramaic",
   "10860Palmyrene 10880Nabataean 1089fUnknown 108a7Nabataean 108b0Unknown 108e0Hatran",
   "108f3Unknown 108f4Hatran 108f6Unknown 108fbHatran 10900Phoenician 1091cUnknown",
   "1091fPhoenician 10920Lydian 1093aUnknown 1093fLydian 10940Sidetic 1095aUnknown",
   "10980Meroitic_Hieroglyphs 109a0Meroitic_Cursive 109b8Unknown 109bcMeroitic_Cursive",
   "109d0Unknown 109d2Meroitic_Cursive 10a00Kharoshthi 10a04Unknown 10a05Kharoshthi 10a07Unknown",
   "10a0cKharoshthi 10a14Unknown 10a15Kharoshthi 10a18Unknown 10a19Kharoshthi 10a36Unknown",
   "10a38Kharoshthi 10a3bUnknown 10a3fKharoshthi 10a49Unknown 10a50Kharoshthi 10a59Unknown",
   "10a60Old_South_Arabian 10a80Old_North_Arabian 10aa0Unknown 10ac0Manichaean 10ae7Unknown",
   "10aebManichaean 10af7Unknown 10b00Avestan 10b36Unknown 10b39Avestan",
   "10b40Inscriptional_Parthian 10b56Unknown 10b58Inscriptional_Parthian",
   "10b60Inscriptional_Pahlavi 10b73Unknown 10b78Inscriptional_Pahlavi 10b80Psalter_Pahlavi",
   "10b92Unknown 10b99Psalter_Pahlavi 10b9dUnknown 10ba9Psalter_Pahlavi 10bb0Unknown",
   "10c00Old_Turkic 10c49Unknown 10c80Old_Hungarian 10cb3Unknown 10cc0Old_Hungarian 10cf3Unknown",
   "10cfaOld_Hungarian 10d00Hanifi_Rohingya 10d28Unknown 10d30Hanifi_Rohingya 10d3aUnknown",
   "10d40Garay 10d66Unknown 10d69Garay 10d86Unknown 10d8eGaray 10d90Unknown 10e60Arabic",
   "10e7fUnknown 10e80Yezidi 10eaaUnknown 10eabYezidi 10eaeUnknown 10eb0Yezidi 10eb2Unknown",
   "10ec2Arabic 10ec8Unknown 10ed0Arabic 10ed9Unknown 10efaArabic 10f00Old_Sogdian 10f28Unknown",
   "10f30Sogdian 10f5aUnknown 10f70Old_Uyghur 10f8aUnknown 10fb0Chorasmian 10fccUnknown",
   "10fe0Elymaic 10ff7Unknown 11000Brahmi 1104eUnknown 11052Brahmi 11076Unknown 1107fBrahmi",
   "11080Kaithi 110c3Unknown 110cdKaithi 110ceUnknown 110d0Sora_Sompeng 110e9Unknown",
   "110f0Sora_Sompeng 110faUnknown 11100Chakma 11135Unknown 11136Chakma 11148Unknown",
   "11150Mahajani 11177Unknown 11180Sharada 111e0Unknown 111e1Sinhala 111f5Unknown 11200Khojki",
   "11212Unknown 11213Khojki 11242Unknown 11280Multani 11287Unknown 11288Multani 11289Unknown",
   "1128aMultani 1128eUnknown 1128fMultani 1129eUnknown 1129fMultani 112aaUnknown 112b0Khudawadi",
   "112ebUnknown 112f0Khudawadi 112faUnknown 11300Grantha 11304Unknown 11305Grantha 1130dUnknown",
   "1130fGrantha 11311Unknown 11313Grantha 11329Unknown 1132aGrantha 11331Unknown 11332Grantha",
   "11334Unknown 11335Grantha 1133aUnknown 1133bInherited 1133cGrantha 11345Unknown 11347Grantha",
   "11349Unknown 1134bGrantha 1134eUnknown 11350Grantha 11351Unknown 11357Grantha 11358Unknown",
   "1135dGrantha 11364Unknown 11366Grantha 1136dUnknown 11370Grantha 11375Unknown",
   "11380Tulu_Tigalari 1138aUnknown 1138bTulu_Tigalari 1138cUnknown 1138eTulu_Tigalari",
   "1138fUnknown 11390Tulu_Tigalari 113b6Unknown 113b7Tulu_Tigalari 113c1Unknown",
   "113c2Tulu_Tigalari 113c3Unknown 113c5Tulu_Tigalari 113c6Unknown 113c7Tulu_Tigalari",
   "113cbUnknown 113ccTulu_Tigalari 113d6Unknown 113d7Tulu_Tigalari 113d9Unknown",
   "113e1Tulu_Tigalari 113e3Unknown 11400Newa 1145cUnknown 1145dNewa 11462Unknown 11480Tirhuta",
   "114c8Unknown 114d0Tirhuta 114daUnknown 11580Siddham 115b6Unknown 115b8Siddham 115deUnknown",
   "11600Modi 11645Unknown 11650Modi 1165aUnknown 11660Mongolian 1166dUnknown 11680Takri",
   "116baUnknown 116c0Takri 116caUnknown 116d0Myanmar 116e4Unknown 11700Ahom 1171bUnknown",
   "1171dAhom 1172cUnknown 11730Ahom 11747Unknown 11800Dogra 1183cUnknown 118a0Warang_Citi",
   "118f3Unknown 118ffWarang_Citi 11900Dives_Akuru 11907Unknown 11909Dives_Akuru 1190aUnknown",
   "1190cDives_Akuru 11914Unknown 11915Dives_Akuru 11917Unknown 11918Dives_Akuru 11936Unknown",
   "11937Dives_Akuru 11939Unknown 1193bDives_Akuru 11947Unknown 11950Dives_Akuru 1195aUnknown",
   "119a0Nandinagari 119a8Unknown 119aaNandinagari 119d8Unknown 119daNandinagari 119e5Unknown",
   "11a00Zanabazar_Square 11a48Unknown 11a50Soyombo 11aa3Unknown 11ab0Canadian_Aboriginal",
   "11ac0Pau_Cin_Hau 11af9Unknown 11b00Devanagari 11b0aUnknown 11b60Sharada 11b68Unknown",
   "11bc0Sunuwar 11be2Unknown 11bf0Sunuwar 11bfaUnknown 11c00Bhaiksuki 11c09Unknown",
   "11c0aBhaiksuki 11c37Unknown 11c38Bhaiksuki 11c46Unknown 11c50Bhaiksuki 11c6dUnknown",
   "11c70Marchen 11c90Unknown 11c92Marchen 11ca8Unknown 11ca9Marchen 11cb7Unknown",
   "11d00Masaram_Gondi 11d07Unknown 11d08Masaram_Gondi 11d0aUnknown 11d0bMasaram_Gondi",
   "11d37Unknown 11d3aMasaram_Gondi 11d3bUnknown 11d3cMasaram_Gondi 11d3eUnknown",
   "11d3fMasaram_Gondi 11d48Unknown 11d50Masaram_Gondi 11d5aUnknown 11d60Gunjala_Gondi",
   "11d66Unknown 11d67Gunjala_Gondi 11d69Unknown 11d6aGunjala_Gondi 11d8fUnknown",
   "11d90Gunjala_Gondi 11d92Unknown 11d93Gunjala_Gondi 11d99Unknown 11da0Gunjala_Gondi",
   "11daaUnknown 11db0Tolong_Siki 11ddcUnknown 11de0Tolong_Siki 11deaUnknown 11ee0Makasar",
   "11ef9Unknown 11f00Kawi 11f11Unknown 11f12Kawi 11f3bUnknown 11f3eKawi 11f5bUnknown 11fb0Lisu",
   "11fb1Unknown 11fc0Tamil 11ff2Unknown 11fffTamil 12000Cuneiform 1239aUnknown 12400Cuneiform",
   "1246fUnknown 12470Cuneiform 12475Unknown 12480Cuneiform 12544Unknown 12f90Cypro_Minoan",
   "12ff3Unknown 13000Egyptian_Hieroglyphs 13456Unknown 13460Egyptian_Hieroglyphs 143fbUnknown",
   "14400Anatolian_Hieroglyphs 14647Unknown 16100Gurung_Khema 1613aUnknown 16800Bamum",
   "16a39Unknown 16a40Mro 16a5fUnknown 16a60Mro 16a6aUnknown 16a6eMro 16a70Tangsa 16abfUnknown",
   "16ac0Tangsa 16acaUnknown 16ad0Bassa_Vah 16aeeUnknown 16af0Bassa_Vah 16af6Unknown",
   "16b00Pahawh_Hmong 16b46Unknown 16b50Pahawh_Hmong 16b5aUnknown 16b5bPahawh_Hmong 16b62Unknown",
   "16b63Pahawh_Hmong 16b78Unknown 16b7dPahawh_Hmong 16b90Unknown 16d40Kirat_Rai 16d7aUnknown",
   "16e40Medefaidrin 16e9bUnknown 16ea0Beria_Erfe 16eb9Unknown 16ebbBeria_Erfe 16ed4Unknown",
   "16f00Miao 16f4bUnknown 16f4fMiao 16f88Unknown 16f8fMiao 16fa0Unknown 16fe0Tangut 16fe1Nushu",
   "16fe2Han 16fe4Khitan_Small_Script 16fe5Unknown 16ff0Han 16ff7Unknown 17000Tangut",
   "18b00Khitan_Small_Script 18cd6Unknown 18cffKhitan_Small_Script 18d00Tangut 18d1fUnknown",
   "18d80Tangut 18df3Unknown 1aff0Katakana 1aff4Unknown 1aff5Katakana 1affcUnknown 1affdKatakana",
   "1afffUnknown 1b000Katakana 1b001Hiragana 1b120Katakana 1b123Unknown 1b132Hiragana",
   "1b133Unknown 1b150Hiragana 1b153Unknown 1b155Katakana 1b156Unknown 1b164Katakana",
   "1b168Unknown 1b170Nushu 1b2fcUnknown 1bc00Duployan 1bc6bUnknown 1bc70Duployan 1bc7dUnknown",
   "1bc80Duployan 1bc89Unknown 1bc90Duployan 1bc9aUnknown 1bc9cDuployan 1bca0Common 1bca4Unknown",
   "1cc00Common 1ccfdUnknown 1cd00Common 1ceb4Unknown 1cebaCommon 1ced1Unknown 1cee0Common",
   "1cef1Unknown 1cf00Inherited 1cf2eUnknown 1cf30Inherited 1cf47Unknown 1cf50Common",
   "1cfc4Unknown 1d000Common 1d0f6Unknown 1d100Common 1d127Unknown 1d129Common 1d167Inherited",
   "1d16aCommon 1d17bInherited 1d183Common 1d185Inherited 1d18cCommon 1d1aaInherited 1d1aeCommon",
   "1d1ebUnknown 1d200Greek 1d246Unknown 1d2c0Common 1d2d4Unknown 1d2e0Common 1d2f4Unknown",
   "1d300Common 1d357Unknown 1d360Common 1d379Unknown 1d400Common 1d455Unknown 1d456Common",
   "1d49dUnknown 1d49eCommon 1d4a0Unknown 1d4a2Common 1d4a3Unknown 1d4a5Common 1d4a7Unknown",
   "1d4a9Common 1d4adUnknown 1d4aeCommon 1d4baUnknown 1d4bbCommon 1d4bcUnknown 1d4bdCommon",
   "1d4c4Unknown 1d4c5Common 1d506Unknown 1d507Common 1d50bUnknown 1d50dCommon 1d515Unknown",
   "1d516Common 1d51dUnknown 1d51eCommon 1d53aUnknown 1d53bCommon 1d53fUnknown 1d540Common",
   "1d545Unknown 1d546Common 1d547Unknown 1d54aCommon 1d551Unknown 1d552Common 1d6a6Unknown",
   "1d6a8Common 1d7ccUnknown 1d7ceCommon 1d800SignWriting 1da8cUnknown 1da9bSignWriting",
   "1daa0Unknown 1daa1SignWriting 1dab0Unknown 1df00Latin 1df1fUnknown 1df25Latin 1df2bUnknown",
   "1e000Glagolitic 1e007Unknown 1e008Glagolitic 1e019Unknown 1e01bGlagolitic 1e022Unknown",
   "1e023Glagolitic 1e025Unknown 1e026Glagolitic 1e02bUnknown 1e030Cyrillic 1e06eUnknown",
   "1e08fCyrillic 1e090Unknown 1e100Nyiakeng_Puachue_Hmong 1e12dUnknown",
   "1e130Nyiakeng_Puachue_Hmong 1e13eUnknown 1e140Nyiakeng_Puachue_Hmong 1e14aUnknown",
   "1e14eNyiakeng_Puachue_Hmong 1e150Unknown 1e290Toto 1e2afUnknown 1e2c0Wancho 1e2faUnknown",
   "1e2ffWancho 1e300Unknown 1e4d0Nag_Mundari 1e4faUnknown 1e5d0Ol_Onal 1e5fbUnknown",
   "1e5ffOl_Onal 1e600Unknown 1e6c0Tai_Yo 1e6dfUnknown 1e6e0Tai_Yo 1e6f6Unknown 1e6feTai_Yo",
   "1e700Unknown 1e7e0Ethiopic 1e7e7Unknown 1e7e8Ethiopic 1e7ecUnknown 1e7edEthiopic",
   "1e7efUnknown 1e7f0Ethiopic 1e7ffUnknown 1e800Mende_Kikakui 1e8c5Unknown 1e8c7Mende_Kikakui",
   "1e8d7Unknown 1e900Adlam 1e94cUnknown 1e950Adlam 1e95aUnknown 1e95eAdlam 1e960Unknown",
   "1ec71Common 1ecb5Unknown 1ed01Common 1ed3eUnknown 1ee00Arabic 1ee04Unknown 1ee05Arabic",
   "1ee20Unknown 1ee21Arabic 1ee23Unknown 1ee24Arabic 1ee25Unknown 1ee27Arabic 1ee28Unknown",
   "1ee29Arabic 1ee33Unknown 1ee34Arabic 1ee38Unknown 1ee39Arabic 1ee3aUnknown 1ee3bArabic",
   "1ee3cUnknown 1ee42Arabic 1ee43Unknown 1ee47Arabic 1ee48Unknown 1ee49Arabic 1ee4aUnknown",
   "1ee4bArabic 1ee4cUnknown 1ee4dArabic 1ee50Unknown 1ee51Arabic 1ee53Unknown 1ee54Arabic",
   "1ee55Unknown 1ee57Arabic 1ee58Unknown 1ee59Arabic 1ee5aUnknown 1ee5bArabic 1ee5cUnknown",
   "1ee5dArabic 1ee5eUnknown 1ee5fArabic 1ee60Unknown 1ee61Arabic 1ee63Unknown 1ee64Arabic",
   "1ee65Unknown 1ee67Arabic 1ee6bUnknown 1ee6cArabic 1ee73Unknown 1ee74Arabic 1ee78Unknown",
   "1ee79Arabic 1ee7dUnknown 1ee7eArabic 1ee7fUnknown 1ee80Arabic 1ee8aUnknown 1ee8bArabic",
   "1ee9cUnknown 1eea1Arabic 1eea4Unknown 1eea5Arabic 1eeaaUnknown 1eeabArabic 1eebcUnknown",
   "1eef0Arabic 1eef2Unknown 1f000Common 1f02cUnknown 1f030Common 1f094Unknown 1f0a0Common",
   "1f0afUnknown 1f0b1Common 1f0c0Unknown 1f0c1Common 1f0d0Unknown 1f0d1Common 1f0f6Unknown",
   "1f100Common 1f1aeUnknown 1f1e6Common 1f200Hiragana 1f201Common 1f203Unknown 1f210Common",
   "1f23cUnknown 1f240Common 1f249Unknown 1f250Common 1f252Unknown 1f260Common 1f266Unknown",
   "1f300Common 1f6d9Unknown 1f6dcCommon 1f6edUnknown 1f6f0Common 1f6fdUnknown 1f700Common",
   "1f7daUnknown 1f7e0Common 1f7ecUnknown 1f7f0Common 1f7f1Unknown 1f800Common 1f80cUnknown",
   "1f810Common 1f848Unknown 1f850Common 1f85aUnknown 1f860Common 1f888Unknown 1f890Common",
   "1f8aeUnknown 1f8b0Common 1f8bcUnknown 1f8c0Common 1f8c2Unknown 1f8d0Common 1f8d9Unknown",
   "1f900Common 1fa58Unknown 1fa60Common 1fa6eUnknown 1fa70Common 1fa7dUnknown 1fa80Common",
   "1fa8bUnknown 1fa8eCommon 1fac7Unknown 1fac8Common 1fac9Unknown 1facdCommon 1faddUnknown",
   "1fadfCommon 1faebUnknown 1faefCommon 1faf9Unknown 1fb00Common 1fb93Unknown 1fb94Common",
   "1fbfbUnknown 20000Han 2a6e0Unknown 2a700Han 2b81eUnknown 2b820Han 2ceaeUnknown 2ceb0Han",
   "2ebe1Unknown 2ebf0Han 2ee5eUnknown 2f800Han 2fa1eUnknown 30000Han 3134bUnknown 31350Han",
   "3347aUnknown e0001Common e0002Unknown e0020Common e0080Unknown e0100Inherited e01f0Unknown"]

/-- The script table, unpacked. -/
def scriptRuns : Runs String := Runs.unpack id scriptTable

/-- The script of a character. -/
def script (c : Char) : String := (scriptRuns.get? c).getD "Unknown"

/-- The scripts and what they may be called. -/
def scriptNames : List (String × List String) :=
  [("Adlam", ["adlm", "adlam"]), ("Ahom", ["ahom"]),
   ("Anatolian_Hieroglyphs", ["hluw", "anatolianhieroglyphs"]), ("Arabic", ["arab", "arabic"]),
   ("Armenian", ["armn", "armenian"]), ("Avestan", ["avst", "avestan"]),
   ("Balinese", ["bali", "balinese"]), ("Bamum", ["bamu", "bamum"]),
   ("Bassa_Vah", ["bass", "bassavah"]), ("Batak", ["batk", "batak"]),
   ("Bengali", ["beng", "bengali"]), ("Beria_Erfe", ["berf", "beriaerfe"]),
   ("Bhaiksuki", ["bhks", "bhaiksuki"]), ("Bopomofo", ["bopo", "bopomofo"]),
   ("Brahmi", ["brah", "brahmi"]), ("Braille", ["brai", "braille"]),
   ("Buginese", ["bugi", "buginese"]), ("Buhid", ["buhd", "buhid"]),
   ("Canadian_Aboriginal", ["cans", "canadianaboriginal"]), ("Carian", ["cari", "carian"]),
   ("Caucasian_Albanian", ["aghb", "caucasianalbanian"]), ("Chakma", ["cakm", "chakma"]),
   ("Cham", ["cham"]), ("Cherokee", ["cher", "cherokee"]), ("Chorasmian", ["chrs", "chorasmian"]),
   ("Common", ["zyyy", "common"]), ("Coptic", ["copt", "coptic", "qaac"]),
   ("Cuneiform", ["xsux", "cuneiform"]), ("Cypriot", ["cprt", "cypriot"]),
   ("Cypro_Minoan", ["cpmn", "cyprominoan"]), ("Cyrillic", ["cyrl", "cyrillic"]),
   ("Deseret", ["dsrt", "deseret"]), ("Devanagari", ["deva", "devanagari"]),
   ("Dives_Akuru", ["diak", "divesakuru"]), ("Dogra", ["dogr", "dogra"]),
   ("Duployan", ["dupl", "duployan"]), ("Egyptian_Hieroglyphs", ["egyp", "egyptianhieroglyphs"]),
   ("Elbasan", ["elba", "elbasan"]), ("Elymaic", ["elym", "elymaic"]),
   ("Ethiopic", ["ethi", "ethiopic"]), ("Garay", ["gara", "garay"]),
   ("Georgian", ["geor", "georgian"]), ("Glagolitic", ["glag", "glagolitic"]),
   ("Gothic", ["goth", "gothic"]), ("Grantha", ["gran", "grantha"]), ("Greek", ["grek", "greek"]),
   ("Gujarati", ["gujr", "gujarati"]), ("Gunjala_Gondi", ["gong", "gunjalagondi"]),
   ("Gurmukhi", ["guru", "gurmukhi"]), ("Gurung_Khema", ["gukh", "gurungkhema"]),
   ("Han", ["hani", "han"]), ("Hangul", ["hang", "hangul"]),
   ("Hanifi_Rohingya", ["rohg", "hanifirohingya"]), ("Hanunoo", ["hano", "hanunoo"]),
   ("Hatran", ["hatr", "hatran"]), ("Hebrew", ["hebr", "hebrew"]),
   ("Hiragana", ["hira", "hiragana"]), ("Imperial_Aramaic", ["armi", "imperialaramaic"]),
   ("Inherited", ["zinh", "inherited", "qaai"]),
   ("Inscriptional_Pahlavi", ["phli", "inscriptionalpahlavi"]),
   ("Inscriptional_Parthian", ["prti", "inscriptionalparthian"]),
   ("Javanese", ["java", "javanese"]), ("Kaithi", ["kthi", "kaithi"]),
   ("Kannada", ["knda", "kannada"]), ("Katakana", ["kana", "katakana"]), ("Kawi", ["kawi"]),
   ("Kayah_Li", ["kali", "kayahli"]), ("Kharoshthi", ["khar", "kharoshthi"]),
   ("Khitan_Small_Script", ["kits", "khitansmallscript"]), ("Khmer", ["khmr", "khmer"]),
   ("Khojki", ["khoj", "khojki"]), ("Khudawadi", ["sind", "khudawadi"]),
   ("Kirat_Rai", ["krai", "kiratrai"]), ("Lao", ["laoo", "lao"]), ("Latin", ["latn", "latin"]),
   ("Lepcha", ["lepc", "lepcha"]), ("Limbu", ["limb", "limbu"]),
   ("Linear_A", ["lina", "lineara"]), ("Linear_B", ["linb", "linearb"]), ("Lisu", ["lisu"]),
   ("Lycian", ["lyci", "lycian"]), ("Lydian", ["lydi", "lydian"]),
   ("Mahajani", ["mahj", "mahajani"]), ("Makasar", ["maka", "makasar"]),
   ("Malayalam", ["mlym", "malayalam"]), ("Mandaic", ["mand", "mandaic"]),
   ("Manichaean", ["mani", "manichaean"]), ("Marchen", ["marc", "marchen"]),
   ("Masaram_Gondi", ["gonm", "masaramgondi"]), ("Medefaidrin", ["medf", "medefaidrin"]),
   ("Meetei_Mayek", ["mtei", "meeteimayek"]), ("Mende_Kikakui", ["mend", "mendekikakui"]),
   ("Meroitic_Cursive", ["merc", "meroiticcursive"]),
   ("Meroitic_Hieroglyphs", ["mero", "meroitichieroglyphs"]), ("Miao", ["plrd", "miao"]),
   ("Modi", ["modi"]), ("Mongolian", ["mong", "mongolian"]), ("Mro", ["mroo", "mro"]),
   ("Multani", ["mult", "multani"]), ("Myanmar", ["mymr", "myanmar"]),
   ("Nabataean", ["nbat", "nabataean"]), ("Nag_Mundari", ["nagm", "nagmundari"]),
   ("Nandinagari", ["nand", "nandinagari"]), ("New_Tai_Lue", ["talu", "newtailue"]),
   ("Newa", ["newa"]), ("Nko", ["nkoo", "nko"]), ("Nushu", ["nshu", "nushu"]),
   ("Nyiakeng_Puachue_Hmong", ["hmnp", "nyiakengpuachuehmong"]), ("Ogham", ["ogam", "ogham"]),
   ("Ol_Chiki", ["olck", "olchiki"]), ("Ol_Onal", ["onao", "olonal"]),
   ("Old_Hungarian", ["hung", "oldhungarian"]), ("Old_Italic", ["ital", "olditalic"]),
   ("Old_North_Arabian", ["narb", "oldnortharabian"]), ("Old_Permic", ["perm", "oldpermic"]),
   ("Old_Persian", ["xpeo", "oldpersian"]), ("Old_Sogdian", ["sogo", "oldsogdian"]),
   ("Old_South_Arabian", ["sarb", "oldsoutharabian"]), ("Old_Turkic", ["orkh", "oldturkic"]),
   ("Old_Uyghur", ["ougr", "olduyghur"]), ("Oriya", ["orya", "oriya"]),
   ("Osage", ["osge", "osage"]), ("Osmanya", ["osma", "osmanya"]),
   ("Pahawh_Hmong", ["hmng", "pahawhhmong"]), ("Palmyrene", ["palm", "palmyrene"]),
   ("Pau_Cin_Hau", ["pauc", "paucinhau"]), ("Phags_Pa", ["phag", "phagspa"]),
   ("Phoenician", ["phnx", "phoenician"]), ("Psalter_Pahlavi", ["phlp", "psalterpahlavi"]),
   ("Rejang", ["rjng", "rejang"]), ("Runic", ["runr", "runic"]),
   ("Samaritan", ["samr", "samaritan"]), ("Saurashtra", ["saur", "saurashtra"]),
   ("Sharada", ["shrd", "sharada"]), ("Shavian", ["shaw", "shavian"]),
   ("Siddham", ["sidd", "siddham"]), ("Sidetic", ["sidt", "sidetic"]),
   ("SignWriting", ["sgnw", "signwriting"]), ("Sinhala", ["sinh", "sinhala"]),
   ("Sogdian", ["sogd", "sogdian"]), ("Sora_Sompeng", ["sora", "sorasompeng"]),
   ("Soyombo", ["soyo", "soyombo"]), ("Sundanese", ["sund", "sundanese"]),
   ("Sunuwar", ["sunu", "sunuwar"]), ("Syloti_Nagri", ["sylo", "sylotinagri"]),
   ("Syriac", ["syrc", "syriac"]), ("Tagalog", ["tglg", "tagalog"]),
   ("Tagbanwa", ["tagb", "tagbanwa"]), ("Tai_Le", ["tale", "taile"]),
   ("Tai_Tham", ["lana", "taitham"]), ("Tai_Viet", ["tavt", "taiviet"]),
   ("Tai_Yo", ["tayo", "taiyo"]), ("Takri", ["takr", "takri"]), ("Tamil", ["taml", "tamil"]),
   ("Tangsa", ["tnsa", "tangsa"]), ("Tangut", ["tang", "tangut"]), ("Telugu", ["telu", "telugu"]),
   ("Thaana", ["thaa", "thaana"]), ("Thai", ["thai"]), ("Tibetan", ["tibt", "tibetan"]),
   ("Tifinagh", ["tfng", "tifinagh"]), ("Tirhuta", ["tirh", "tirhuta"]),
   ("Todhri", ["todr", "todhri"]), ("Tolong_Siki", ["tols", "tolongsiki"]), ("Toto", ["toto"]),
   ("Tulu_Tigalari", ["tutg", "tulutigalari"]), ("Ugaritic", ["ugar", "ugaritic"]),
   ("Unknown", ["zzzz", "unknown"]), ("Vai", ["vaii", "vai"]), ("Vithkuqi", ["vith", "vithkuqi"]),
   ("Wancho", ["wcho", "wancho"]), ("Warang_Citi", ["wara", "warangciti"]),
   ("Yezidi", ["yezi", "yezidi"]), ("Yi", ["yiii", "yi"]),
   ("Zanabazar_Square", ["zanb", "zanabazarsquare"])]

/-- The script of a name. -/
def scriptOfName? (name : String) : Option String :=
  (scriptNames.find? fun entry => entry.2.contains name).map (·.1)

end Intake.Text
