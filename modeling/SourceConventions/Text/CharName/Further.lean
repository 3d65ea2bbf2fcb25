/-!
# Further names of characters

Names of control characters, corrected names and abbreviations.
-/

namespace SourceConventions.Text.CharName

/-- Names of characters that have another name or no other one. -/
def further : String :=
  "0 aNUL 0 aNULL aSOH 1 aSTART_OF_HEADING cTEXT 2 aSTX aEND_OF_TEXT 3 aETX aEND_OF_TRANSMISSION 4
    aEOT aENQ 5 aENQUIRY aACK 6 aACKNOWLEDGE aALERT 7 aBEL aBACKSPACE 8 aBS aCHARACTER_TABULATION 9
    aHORIZONTAL_b 9 aHT 9 aTAB aEND_OF_LINE A aEOL A aLF A aLINE_FEED A aNEW_LINE A aNL
    aLINE_TABULATION B aVERTICAL_b B aVT aFF C aFORM_FEED aCARRIAGE_RETURN D aCR aLOCKING-SHIFT_ONE
    E aSHIFT_OUT E aSO aLOCKING-SHIFT_ZERO F aSHIFT_IN F aSI aDATA_LINK_ESCAPE 10 aDLE aDC1 11
    aDEVICE_CONTROL_ONE aDC2 12 aDEVICE_CONTROL_TWO aDC3 13 aDEVICE_CONTROL_THREE aDC4 14
    aDEVICE_CONTROL_FOUR aNAK 15 aNEGATIVE_ACKNOWLEDGE aSYN 16 aSYNCHRONOUS_IDLE
    aEND_OF_TRANSMISSION_BLOCK 17 aETB aCAN 18 aCANCEL aEND_OF_MEDIUM 19 aEOM aSUB 1A aSUBSTITUTE
    aESC 1B aESCAPE aFILE_SEPARATOR 1C aFS 1C aINFORMATION_SEPARATOR_FOUR aGROUP_SEPARATOR 1D aGS 1D
    aINFORMATION_SEPARATOR_THREE cTWO 1E aRECORD_SEPARATOR 1E aRS aINFORMATION_SEPARATOR_ONE 1F
    aUNIT_SEPARATOR 1F aUS aSP 7F aDEL 7F aDELETE aPAD 80 aPADDING_CHARACTER aHIGH_OCTET_PRESET 81
    aHOP aBPH 82 aBREAK_PERMITTED_HERE aNBH 83 aNO_BREAK_HERE aIND 84 aINDEX aNEL 85 aNEXT_LINE aSSA
    86 aSTART_OF_SELECTED_AREA aEND_d 87 aESA aCHARACTER_TABULATION_SET 88 aHORIZONTAL_c 88 aHTS
    aCHARACTER_TABULATION_WITH_JUSTIFICATION 89 aHORIZONTAL_d 89 aHTJ aLINE_TABULATION_SET 8A
    aVERTICAL_c 8A aVTS aPARTIAL_LINE_DOWN 8B cFORWARD 8B aPLD aPARTIAL_LINE_BACKWARD 8C cUP 8C aPLU
    aREVERSE_INDEX 8D bLINE_FEED 8D aRI aSINGLE_SHIFT_TWO 8E aSINGLE-SHIFT-2 8E aSS2
    aSINGLE_SHIFT_THREE 8F aSINGLE-SHIFT-3 8F aSS3 aDCS 90 aDEVICE_CONTROL_STRING aPRIVATE_USE_ONE
    91 bUSE-1 91 aPU1 aPRIVATE_USE_TWO 92 bUSE-2 92 aPU2 aSET_TRANSMIT_STATE 93 aSTS
    aCANCEL_CHARACTER 94 aCCH aMESSAGE_WAITING 95 aMW aSPA 96 aSTART_OF_GUARDED_AREA 96 cPROTECTED_b
    aEND_OF_GUARDED_b 97 cPROTECTED_b 97 aEPA aSOS 98 aSTART_OF_STRING aSGC 99
    aSINGLE_GRAPHIC_CHARACTER_INTRODUCER aSCI 9A aSINGLE_CHARACTER_INTRODUCER aCONTROL_SEQUENCE_b 9B
    aCSI aST 9C aSTRING_TERMINATOR aOPERATING_SYSTEM_COMMAND 9D aOSC aPM 9E aPRIVACY_MESSAGE aAPC 9F
    aAPPLICATION_PROGRAM_COMMAND aNBSP AD aSHY 1A2 aLATIN_CAPITAL_LETTER_GHA bSMALL_c 34F aCGJ 61C
    aALM 709 aSYRIAC_SUBLINEAR_COLON_SKEWED_LEFT CDE aKANNADA_LETTER_LLLA E9D aLAO_LETTER_FO_FON E9F
    dFAY EA3 cRO EA5 cLO FD0 aTIBETAN_MARK_BKA-_SHOG_GI_MGO_RGYAN 11EC
    aHANGUL_JONGSEONG_YESIEUNG-KIYEOK dSSANGKIYEOK cSSANGYESIEUNG cYESIEUNG-KHIEUKH 180B aFVS1 aFVS2
    aFVS3 aMVS aFVS4 200B aZWSP aZWNJ aZWJ aLRM aRLM 202A aLRE aRLE aPDF aLRO aRLO aNNBSP 205F aMMSP
    aWJ 2066 aLRI aRLI aFSI aPDI 2118 aWEIERSTRASS_ELLIPTIC_FUNCTION 2448 aMICR_ON_US_SYMBOL bDASH_b
    2B7A aLEFTWARDS_TRIANGLE-HEADED_ARROW_WITH_DOUBLE_VERTICAL_STROKE 2B7C aRIGHTWARDS_h A015
    aYI_SYLLABLE_ITERATION_MARK AA6E aMYANMAR_LETTER_KHAMTI_LLA FE00 aVS1 aVS2 aVS3 aVS4 aVS5 aVS6
    aVS7 aVS8 aVS9 aVS10 aVS11 aVS12 aVS13 aVS14 aVS15 aVS16 FE18
    aPRESENTATION_FORM_FOR_VERTICAL_RIGHT_WHITE_LENTICULAR_BRACKET FEFF aBOM FEFF aBYTE_ORDER_MARK
    FEFF aZWNBSP 122D4 aCUNEIFORM_SIGN_NU11_TENU dOVER_NU11_BUR_OVER_BUR 16E56
    aMEDEFAIDRIN_CAPITAL_LETTER_H dNG 16E76 bSMALL_LETTER_H dNG 1B001 aHENTAIGANA_LETTER_E-1 1D0C5
    aBYZANTINE_MUSICAL_SYMBOL_FTHORA_SKLIRON_CHROMA_VASIS E0100 aVS17 aVS18 aVS19 aVS20 aVS21 aVS22
    aVS23 aVS24 aVS25 aVS26 aVS27 aVS28 aVS29 aVS30 aVS31 aVS32 aVS33 aVS34 aVS35 aVS36 aVS37 aVS38
    aVS39 aVS40 aVS41 aVS42 aVS43 aVS44 aVS45 aVS46 aVS47 aVS48 aVS49 aVS50 aVS51 aVS52 aVS53 aVS54
    aVS55 aVS56 aVS57 aVS58 aVS59 aVS60 aVS61 aVS62 aVS63 aVS64 aVS65 aVS66 aVS67 aVS68 aVS69 aVS70
    aVS71 aVS72 aVS73 aVS74 aVS75 aVS76 aVS77 aVS78 aVS79 aVS80 aVS81 aVS82 aVS83 aVS84 aVS85 aVS86
    aVS87 aVS88 aVS89 aVS90 aVS91 aVS92 aVS93 aVS94 aVS95 aVS96 aVS97 aVS98 aVS99 aVS100 aVS101
    aVS102 aVS103 aVS104 aVS105 aVS106 aVS107 aVS108 aVS109 aVS110 aVS111 aVS112 aVS113 aVS114
    aVS115 aVS116 aVS117 aVS118 aVS119 aVS120 aVS121 aVS122 aVS123 aVS124 aVS125 aVS126 aVS127
    aVS128 aVS129 aVS130 aVS131 aVS132 aVS133 aVS134 aVS135 aVS136 aVS137 aVS138 aVS139 aVS140
    aVS141 aVS142 aVS143 aVS144 aVS145 aVS146 aVS147 aVS148 aVS149 aVS150 aVS151 aVS152 aVS153
    aVS154 aVS155 aVS156 aVS157 aVS158 aVS159 aVS160 aVS161 aVS162 aVS163 aVS164 aVS165 aVS166
    aVS167 aVS168 aVS169 aVS170 aVS171 aVS172 aVS173 aVS174 aVS175 aVS176 aVS177 aVS178 aVS179
    aVS180 aVS181 aVS182 aVS183 aVS184 aVS185 aVS186 aVS187 aVS188 aVS189 aVS190 aVS191 aVS192
    aVS193 aVS194 aVS195 aVS196 aVS197 aVS198 aVS199 aVS200 aVS201 aVS202 aVS203 aVS204 aVS205
    aVS206 aVS207 aVS208 aVS209 aVS210 aVS211 aVS212 aVS213 aVS214 aVS215 aVS216 aVS217 aVS218
    aVS219 aVS220 aVS221 aVS222 aVS223 aVS224 aVS225 aVS226 aVS227 aVS228 aVS229 aVS230 aVS231
    aVS232 aVS233 aVS234 aVS235 aVS236 aVS237 aVS238 aVS239 aVS240 aVS241 aVS242 aVS243 aVS244
    aVS245 aVS246 aVS247 aVS248 aVS249 aVS250 aVS251 aVS252 aVS253 aVS254 aVS255 aVS256"

end SourceConventions.Text.CharName
