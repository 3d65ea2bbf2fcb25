/-!
# Names of characters: punctuation, symbols and drawings
-/

namespace SourceConventions.Text.CharName

/-- Names of characters from U+2000 to U+2FFB. -/
def symbols : String :=
  "2000 aEN_QUAD aEM_b aEN_SPACE aEM_b aTHREE-PER-c aFOUR-d aSIX-d aFIGURE_b aPUNCTUATION_b aTHIN_b
    aHAIR_b aZERO_WIDTH_b cNON-JOINER cb aLEFT-TO-RIGHT_MARK aRIGHT-TO-LEFT_b aHYPHEN
    aNON-BREAKING_b aFIGURE_DASH aEN_b aEM_b aHORIZONTAL_BAR aDOUBLE_VERTICAL_LINE bLOW_b
    aLEFT_SINGLE_QUOTATION_MARK aRIGHT_d aSINGLE_LOW-9_c bHIGH-REVERSED-d aLEFT_DOUBLE_c aRIGHT_d
    aDOUBLE_LOW-9_c bHIGH-REVERSED-d aDAGGER aDOUBLE_b aBULLET aTRIANGULAR_b aONE_DOT_LEADER aTWO_c
    aHORIZONTAL_ELLIPSIS aHYPHENATION_POINT aLINE_SEPARATOR aPARAGRAPH_b aLEFT-TO-RIGHT_EMBEDDING
    aRIGHT-TO-LEFT_b aPOP_DIRECTIONAL_FORMATTING aLEFT-TO-RIGHT_OVERRIDE aRIGHT-TO-LEFT_b
    aNARROW_NO-BREAK_SPACE aPER_MILLE_SIGN bTEN_THOUSAND_b aPRIME aDOUBLE_b aTRIPLE_b aREVERSED_b
    bDOUBLE_b bTRIPLE_b aCARET aSINGLE_LEFT-POINTING_ANGLE_QUOTATION_MARK bRIGHT-e aREFERENCE_b
    aDOUBLE_EXCLAMATION_b aINTERROBANG aOVERLINE aUNDERTIE aCHARACTER_TIE aCARET_INSERTION_POINT
    aASTERISM aHYPHEN_BULLET aFRACTION_SLASH aLEFT_SQUARE_BRACKET_WITH_QUILL aRIGHT_e
    aDOUBLE_QUESTION_MARK aQUESTION_EXCLAMATION_b aEXCLAMATION_QUESTION_b aTIRONIAN_SIGN_ET
    aREVERSED_PILCROW_SIGN aBLACK_LEFTWARDS_BULLET bRIGHTWARDS_b aLOW_ASTERISK aREVERSED_SEMICOLON
    aCLOSE_UP aTWO_ASTERISKS_ALIGNED_VERTICALLY aCOMMERCIAL_MINUS_SIGN aSWUNG_DASH
    aINVERTED_UNDERTIE aFLOWER_PUNCTUATION_MARK aTHREE_DOT_PUNCTUATION aQUADRUPLE_PRIME
    aFOUR_DOT_PUNCTUATION aFIVE_c aTWO_c aFOUR_DOT_MARK aDOTTED_CROSS aTRICOLON aVERTICAL_FOUR_DOTS
    aMEDIUM_MATHEMATICAL_SPACE aWORD_JOINER aFUNCTION_APPLICATION aINVISIBLE_TIMES bSEPARATOR bPLUS
    2066 aLEFT-TO-RIGHT_ISOLATE aRIGHT-TO-LEFT_b aFIRST_STRONG_b aPOP_DIRECTIONAL_b
    aINHIBIT_SYMMETRIC_SWAPPING aACTIVATE_c aINHIBIT_ARABIC_FORM_SHAPING aACTIVATE_d
    aNATIONAL_DIGIT_SHAPES aNOMINAL_c aSUPERSCRIPT_ZERO bLATIN_SMALL_LETTER_I 2074 bFOUR bFIVE bSIX
    bSEVEN bEIGHT bNINE bPLUS_SIGN bMINUS bEQUALS_SIGN bLEFT_PARENTHESIS bRIGHT_b
    bLATIN_SMALL_LETTER_N aSUBSCRIPT_ZERO bONE bTWO bTHREE bFOUR bFIVE bSIX bSEVEN bEIGHT bNINE
    bPLUS_SIGN bMINUS bEQUALS_SIGN bLEFT_PARENTHESIS bRIGHT_b 2090 aLATIN_SUBSCRIPT_SMALL_LETTER_A
    eE eO eX eSCHWA eH eK eL eM eN eP eS eT 20A0 aEURO-CURRENCY_SIGN aCOLON_b aCRUZEIRO_b
    aFRENCH_FRANC_b aLIRA_b aMILL_b aNAIRA_b aPESETA_b aRUPEE_b aWON_b aNEW_SHEQEL_b aDONG_b aEURO_b
    aKIP_b aTUGRIK_b aDRACHMA_b aGERMAN_PENNY_b aPESO_b aGUARANI_b aAUSTRAL_b aHRYVNIA_b aCEDI_b
    aLIVRE_TOURNOIS_b aSPESMILO_b aTENGE_b aINDIAN_RUPEE_b aTURKISH_LIRA_b aNORDIC_MARK_b aMANAT_b
    aRUBLE_b aLARI_b aBITCOIN_b aSOM_b 20D0 aCOMBINING_LEFT_HARPOON_ABOVE bRIGHT_c
    bLONG_VERTICAL_LINE_OVERLAY bSHORT_d bANTICLOCKWISE_ARROW_ABOVE bCLOCKWISE_c bLEFT_c bRIGHT_c
    bRING_OVERLAY bCLOCKWISE_c bANTICLOCKWISE_c bTHREE_DOTS_ABOVE bFOUR_c bENCLOSING_CIRCLE cSQUARE
    cDIAMOND cCIRCLE_BACKSLASH bLEFT_RIGHT_ARROW_ABOVE bENCLOSING_SCREEN cKEYCAP
    cUPWARD_POINTING_TRIANGLE bREVERSE_SOLIDUS_OVERLAY bDOUBLE_VERTICAL_STROKE_b bANNUITY_SYMBOL
    bTRIPLE_UNDERDOT bWIDE_BRIDGE_ABOVE bLEFTWARDS_ARROW_OVERLAY bLONG_DOUBLE_SOLIDUS_b
    bRIGHTWARDS_HARPOON_WITH_BARB_DOWNWARDS bLEFTWARDS_e bLEFT_ARROW_BELOW bRIGHT_c bASTERISK_ABOVE
    2100 aACCOUNT_OF aADDRESSED_TO_THE_SUBJECT aDOUBLE-STRUCK_CAPITAL_C aDEGREE_CELSIUS
    aCENTRE_LINE_SYMBOL aCARE_OF aCADA_UNA aEULER_CONSTANT aSCRUPLE aDEGREE_FAHRENHEIT
    aSCRIPT_SMALL_G bCAPITAL_H aBLACK-LETTER_c aDOUBLE-STRUCK_c aPLANCK_CONSTANT
    bCONSTANT_OVER_TWO_PI aSCRIPT_CAPITAL_I aBLACK-LETTER_c aSCRIPT_CAPITAL_L bSMALL_b
    aL_B_BAR_SYMBOL aDOUBLE-STRUCK_CAPITAL_N aNUMERO_SIGN aSOUND_RECORDING_COPYRIGHT
    aSCRIPT_CAPITAL_P aDOUBLE-STRUCK_c dQ aSCRIPT_CAPITAL_R aBLACK-LETTER_c aDOUBLE-STRUCK_c
    aPRESCRIPTION_TAKE aRESPONSE aSERVICE_MARK aTELEPHONE_SIGN aTRADE_MARK_b aVERSICLE
    aDOUBLE-STRUCK_CAPITAL_Z aOUNCE_SIGN aOHM_b aINVERTED_c aBLACK-LETTER_CAPITAL_Z
    aTURNED_GREEK_SMALL_LETTER_IOTA aKELVIN_SIGN aANGSTROM_b aSCRIPT_CAPITAL_B
    aBLACK-LETTER_CAPITAL_C aESTIMATED_SYMBOL aSCRIPT_SMALL_E bCAPITAL_b cF aTURNED_c
    aSCRIPT_CAPITAL_M bSMALL_O aALEF_SYMBOL aBET_b aGIMEL_b aDALET_b aINFORMATION_SOURCE
    aROTATED_CAPITAL_Q aFACSIMILE_SIGN aDOUBLE-STRUCK_SMALL_PI dGAMMA cCAPITAL_b dPI
    cN-ARY_SUMMATION aTURNED_SANS-SERIF_CAPITAL_G eL aREVERSED_e aTURNED_SANS-SERIF_CAPITAL_Y
    aDOUBLE-STRUCK_ITALIC_CAPITAL_D dSMALL_b eE eI eJ aPROPERTY_LINE aTURNED_AMPERSAND aPER_SIGN
    aAKTIESELSKAB aTURNED_SMALL_F aSYMBOL_FOR_SAMARITAN_SOURCE aVULGAR_FRACTION_ONE_SEVENTH dNINTH
    dTENTH dTHIRD cTWO_THIRDS cONE_FIFTH cTWO_FIFTHS cTHREE_b cFOUR_b cONE_SIXTH cFIVE_SIXTHS
    cONE_EIGHTH cTHREE_EIGHTHS cFIVE_b cSEVEN_b aFRACTION_NUMERATOR_ONE aROMAN_NUMERAL_b cTWO cTHREE
    cFOUR cFIVE cSIX cSEVEN cEIGHT cNINE cTEN cELEVEN cTWELVE cFIFTY cONE_HUNDRED cFIVE_b
    cONE_THOUSAND aSMALL_ROMAN_NUMERAL_ONE dTWO dTHREE dFOUR dFIVE dSIX dSEVEN dEIGHT dNINE dTEN
    dELEVEN dTWELVE dFIFTY dONE_HUNDRED dFIVE_b dONE_THOUSAND aROMAN_NUMERAL_ONE_THOUSAND_C_D
    cFIVE_THOUSAND cTEN_b cREVERSED_ONE_HUNDRED aLATIN_SMALL_LETTER_REVERSED_C
    aROMAN_NUMERAL_SIX_LATE_FORM cFIFTY_EARLY_b dTHOUSAND cONE_HUNDRED_b
    aVULGAR_FRACTION_ZERO_THIRDS aTURNED_DIGIT_TWO cTHREE 2190 aLEFTWARDS_ARROW aUPWARDS_b
    aRIGHTWARDS_b aDOWNWARDS_b aLEFT_RIGHT_b aUP_DOWN_b aNORTH_WEST_b bEAST_b aSOUTH_c bWEST_b
    aLEFTWARDS_ARROW_WITH_STROKE aRIGHTWARDS_d aLEFTWARDS_WAVE_ARROW aRIGHTWARDS_c
    aLEFTWARDS_TWO_HEADED_b aUPWARDS_d aRIGHTWARDS_d aDOWNWARDS_d aLEFTWARDS_ARROW_WITH_TAIL
    aRIGHTWARDS_d aLEFTWARDS_ARROW_FROM_BAR aUPWARDS_d aRIGHTWARDS_d aDOWNWARDS_d
    aUP_DOWN_ARROW_WITH_BASE aLEFTWARDS_ARROW_WITH_HOOK aRIGHTWARDS_d aLEFTWARDS_ARROW_WITH_LOOP
    aRIGHTWARDS_d aLEFT_RIGHT_WAVE_ARROW cARROW_WITH_STROKE aDOWNWARDS_ZIGZAG_ARROW
    aUPWARDS_ARROW_WITH_TIP_LEFTWARDS eRIGHTWARDS aDOWNWARDS_ARROW_WITH_TIP_LEFTWARDS eRIGHTWARDS
    aRIGHTWARDS_ARROW_WITH_CORNER_DOWNWARDS aDOWNWARDS_ARROW_WITH_CORNER_LEFTWARDS
    aANTICLOCKWISE_TOP_SEMICIRCLE_ARROW aCLOCKWISE_d aNORTH_WEST_ARROW_TO_LONG_BAR
    aLEFTWARDS_ARROW_TO_BAR_OVER_RIGHTWARDS_ARROW_TO_b aANTICLOCKWISE_OPEN_CIRCLE_ARROW aCLOCKWISE_d
    aLEFTWARDS_HARPOON_WITH_BARB_UPWARDS eDOWNWARDS aUPWARDS_HARPOON_WITH_BARB_RIGHTWARDS eLEFTWARDS
    aRIGHTWARDS_HARPOON_WITH_BARB_UPWARDS eDOWNWARDS aDOWNWARDS_HARPOON_WITH_BARB_RIGHTWARDS
    eLEFTWARDS aRIGHTWARDS_ARROW_OVER_LEFTWARDS_ARROW aUPWARDS_ARROW_LEFTWARDS_OF_DOWNWARDS_b
    aLEFTWARDS_ARROW_OVER_RIGHTWARDS_b bPAIRED_ARROWS aUPWARDS_c aRIGHTWARDS_c aDOWNWARDS_c
    aLEFTWARDS_HARPOON_OVER_RIGHTWARDS_HARPOON aRIGHTWARDS_HARPOON_OVER_LEFTWARDS_b
    aLEFTWARDS_DOUBLE_ARROW_WITH_STROKE aLEFT_RIGHT_e aRIGHTWARDS_e aLEFTWARDS_DOUBLE_ARROW
    aUPWARDS_c aRIGHTWARDS_c aDOWNWARDS_c aLEFT_RIGHT_c aUP_DOWN_c aNORTH_WEST_c bEAST_c aSOUTH_d
    bWEST_c aLEFTWARDS_TRIPLE_b aRIGHTWARDS_c aLEFTWARDS_SQUIGGLE_b aRIGHTWARDS_c
    aUPWARDS_ARROW_WITH_DOUBLE_STROKE aDOWNWARDS_e aLEFTWARDS_DASHED_ARROW aUPWARDS_c aRIGHTWARDS_c
    aDOWNWARDS_c aLEFTWARDS_ARROW_TO_BAR aRIGHTWARDS_d aLEFTWARDS_WHITE_ARROW aUPWARDS_c
    aRIGHTWARDS_c aDOWNWARDS_c aUPWARDS_WHITE_ARROW_FROM_BAR dON_PEDESTAL
    ePEDESTAL_WITH_HORIZONTAL_BAR gVERTICAL_b cDOUBLE_ARROW dARROW_ON_PEDESTAL
    aRIGHTWARDS_WHITE_ARROW_FROM_WALL aNORTH_WEST_ARROW_TO_CORNER aSOUTH_EAST_d aUP_DOWN_WHITE_ARROW
    aRIGHT_ARROW_WITH_SMALL_CIRCLE aDOWNWARDS_ARROW_LEFTWARDS_OF_UPWARDS_ARROW
    aTHREE_RIGHTWARDS_ARROWS aLEFTWARDS_ARROW_WITH_VERTICAL_STROKE aRIGHTWARDS_e aLEFT_RIGHT_e
    aLEFTWARDS_ARROW_WITH_DOUBLE_c aRIGHTWARDS_f aLEFT_RIGHT_f aLEFTWARDS_OPEN-HEADED_ARROW
    aRIGHTWARDS_d aLEFT_RIGHT_d aFOR_ALL aCOMPLEMENT aPARTIAL_DIFFERENTIAL aTHERE_EXISTS
    bDOES_NOT_EXIST aEMPTY_SET aINCREMENT aNABLA aELEMENT_OF aNOT_AN_c aSMALL_c aCONTAINS_AS_MEMBER
    aDOES_NOT_CONTAIN_c aSMALL_CONTAINS_c aEND_OF_PROOF aN-ARY_PRODUCT cCOPRODUCT cSUMMATION
    aMINUS_SIGN aMINUS-OR-PLUS_b aDOT_PLUS aDIVISION_SLASH aSET_MINUS aASTERISK_OPERATOR aRING_b
    aBULLET_b aSQUARE_ROOT aCUBE_b aFOURTH_b aPROPORTIONAL_TO aINFINITY aRIGHT_ANGLE ab aMEASURED_b
    aSPHERICAL_b aDIVIDES aDOES_NOT_DIVIDE aPARALLEL_TO aNOT_c aLOGICAL_AND bOR aINTERSECTION aUNION
    aINTEGRAL aDOUBLE_b aTRIPLE_b aCONTOUR_b aSURFACE_b aVOLUME_b aCLOCKWISE_b bCONTOUR_b
    aANTICLOCKWISE_c aTHEREFORE aBECAUSE aRATIO aPROPORTION aDOT_MINUS aEXCESS aGEOMETRIC_PROPORTION
    aHOMOTHETIC aTILDE_OPERATOR aREVERSED_TILDE aINVERTED_LAZY_S aSINE_WAVE aWREATH_PRODUCT
    aNOT_TILDE aMINUS_b aASYMPTOTICALLY_EQUAL_TO aNOT_d aAPPROXIMATELY_c bBUT_NOT_ACTUALLY_c
    aNEITHER_APPROXIMATELY_NOR_d aALMOST_c aNOT_d aALMOST_EQUAL_OR_c aTRIPLE_TILDE aALL_EQUAL_TO
    aEQUIVALENT_b aGEOMETRICALLY_c aDIFFERENCE_BETWEEN aAPPROACHES_THE_LIMIT aGEOMETRICALLY_EQUAL_TO
    aAPPROXIMATELY_EQUAL_TO_OR_THE_IMAGE_OF aIMAGE_OF_OR_APPROXIMATELY_EQUAL_TO aCOLON_EQUALS
    aEQUALS_COLON aRING_IN_EQUAL_TO bc aCORRESPONDS_b aESTIMATES aEQUIANGULAR_TO aSTAR_EQUALS
    aDELTA_EQUAL_TO aEQUAL_TO_BY_DEFINITION aMEASURED_BY aQUESTIONED_EQUAL_TO aNOT_c aIDENTICAL_b
    aNOT_c aSTRICTLY_EQUIVALENT_b aLESS-THAN_OR_EQUAL_b aGREATER-e aLESS-THAN_OVER_c aGREATER-e
    aLESS-THAN_BUT_NOT_c aGREATER-f aMUCH_LESS-THAN bGREATER-b aBETWEEN aNOT_EQUIVALENT_TO
    bLESS-THAN bGREATER-b aNEITHER_LESS-THAN_NOR_EQUAL_TO bGREATER-e aLESS-THAN_OR_EQUIVALENT_b
    aGREATER-e aNEITHER_LESS-THAN_NOR_c bGREATER-e aLESS-THAN_OR_GREATER-THAN
    aGREATER-THAN_OR_LESS-b aNEITHER_LESS-THAN_NOR_GREATER-b bGREATER-THAN_NOR_LESS-b aPRECEDES
    aSUCCEEDS aPRECEDES_OR_EQUAL_TO aSUCCEEDS_d aPRECEDES_OR_EQUIVALENT_b aSUCCEEDS_d
    aDOES_NOT_PRECEDE cSUCCEED aSUBSET_OF aSUPERSET_b aNOT_A_SUBSET_b cSUPERSET_b
    aSUBSET_OF_OR_EQUAL_TO aSUPERSET_e aNEITHER_A_SUBSET_OF_NOR_c cSUPERSET_e aSUBSET_OF_WITH_NOT_c
    aSUPERSET_f aMULTISET aMULTISET_MULTIPLICATION bUNION aSQUARE_IMAGE_OF bORIGINAL_b
    bIMAGE_OF_OR_EQUAL_TO bORIGINAL_e bCAP bCUP aCIRCLED_PLUS bMINUS bTIMES bDIVISION_SLASH
    bDOT_OPERATOR bRING_b bASTERISK_b bEQUALS bDASH aSQUARED_PLUS bMINUS bTIMES bDOT_OPERATOR
    aRIGHT_TACK aLEFT_b aDOWN_b aUP_b aASSERTION aMODELS aTRUE aFORCES
    aTRIPLE_VERTICAL_BAR_RIGHT_TURNSTILE aDOUBLE_VERTICAL_BAR_DOUBLE_c aDOES_NOT_PROVE aNOT_TRUE
    aDOES_NOT_FORCE aNEGATED_DOUBLE_VERTICAL_BAR_DOUBLE_RIGHT_TURNSTILE aPRECEDES_UNDER_RELATION
    aSUCCEEDS_c aNORMAL_SUBGROUP_OF aCONTAINS_AS_NORMAL_SUBGROUP aNORMAL_SUBGROUP_OF_OR_EQUAL_TO
    aCONTAINS_AS_NORMAL_SUBGROUP_d aORIGINAL_OF aIMAGE_b aMULTIMAP aHERMITIAN_CONJUGATE_MATRIX
    aINTERCALATE aXOR aNAND aNOR aRIGHT_ANGLE_WITH_ARC bTRIANGLE aN-ARY_LOGICAL_AND dOR
    cINTERSECTION cUNION aDIAMOND_OPERATOR aDOT_b aSTAR_b aDIVISION_TIMES aBOWTIE
    aLEFT_NORMAL_FACTOR_SEMIDIRECT_PRODUCT aRIGHT_e aLEFT_c aRIGHT_c aREVERSED_TILDE_EQUALS
    aCURLY_LOGICAL_OR cAND aDOUBLE_SUBSET bSUPERSET bINTERSECTION bUNION aPITCHFORK
    aEQUAL_AND_PARALLEL_TO aLESS-THAN_WITH_DOT aGREATER-d aVERY_MUCH_LESS-THAN cGREATER-b
    aLESS-THAN_EQUAL_TO_OR_c aGREATER-THAN_EQUAL_TO_OR_LESS-b af dGREATER-b dPRECEDES dSUCCEEDS
    aDOES_NOT_PRECEDE_OR_EQUAL cSUCCEED_c aNOT_SQUARE_IMAGE_OF_OR_EQUAL_TO cORIGINAL_e
    aSQUARE_IMAGE_OF_OR_NOT_c bORIGINAL_f aLESS-THAN_BUT_NOT_EQUIVALENT_b aGREATER-f aPRECEDES_e
    aSUCCEEDS_e aNOT_NORMAL_SUBGROUP_OF aDOES_NOT_CONTAIN_AS_NORMAL_SUBGROUP
    aNOT_NORMAL_SUBGROUP_OF_OR_EQUAL_TO aDOES_NOT_CONTAIN_AS_NORMAL_SUBGROUP_OR_EQUAL
    aVERTICAL_ELLIPSIS aMIDLINE_HORIZONTAL_b aUP_RIGHT_DIAGONAL_b aDOWN_d
    aELEMENT_OF_WITH_LONG_HORIZONTAL_STROKE dVERTICAL_BAR_AT_END_OF_c aSMALL_k
    aELEMENT_OF_WITH_DOT_ABOVE dOVERBAR aSMALL_e aELEMENT_OF_WITH_UNDERBAR dTWO_HORIZONTAL_STROKES
    aCONTAINS_WITH_LONG_HORIZONTAL_STROKE cVERTICAL_BAR_AT_END_OF_c aSMALL_j aCONTAINS_WITH_OVERBAR
    aSMALL_d aZ_NOTATION_BAG_MEMBERSHIP aDIAMETER_SIGN aELECTRIC_ARROW aHOUSE aUP_ARROWHEAD aDOWN_b
    aPROJECTIVE aPERSPECTIVE aWAVY_LINE aLEFT_CEILING aRIGHT_b aLEFT_FLOOR aRIGHT_b
    aBOTTOM_RIGHT_CROP bLEFT_b aTOP_RIGHT_b bLEFT_b aREVERSED_NOT_SIGN aSQUARE_LOZENGE aARC aSEGMENT
    aSECTOR aTELEPHONE_RECORDER aPOSITION_INDICATOR aVIEWDATA_SQUARE aPLACE_OF_INTEREST_SIGN
    aTURNED_NOT_b aWATCH aHOURGLASS aTOP_LEFT_CORNER bRIGHT_b aBOTTOM_LEFT_b bRIGHT_b
    aTOP_HALF_INTEGRAL aBOTTOM_c aFROWN aSMILE aUP_ARROWHEAD_BETWEEN_TWO_HORIZONTAL_BARS aOPTION_KEY
    aERASE_TO_THE_RIGHT aX_IN_A_RECTANGLE_BOX aKEYBOARD aLEFT-POINTING_ANGLE_BRACKET aRIGHT-d
    aERASE_TO_THE_LEFT aBENZENE_RING aCYLINDRICITY aALL_AROUND-PROFILE aSYMMETRY aTOTAL_RUNOUT
    aDIMENSION_ORIGIN aCONICAL_TAPER aSLOPE aCOUNTERBORE aCOUNTERSINK aAPL_FUNCTIONAL_SYMBOL_I-BEAM
    dSQUISH_QUAD dQUAD_EQUAL eDIVIDE eDIAMOND eJOT eCIRCLE dCIRCLE_STILE eJOT dSLASH_BAR
    dBACKSLASH_b dQUAD_SLASH eBACKSLASH eLESS-THAN eGREATER-b dLEFTWARDS_VANE dRIGHTWARDS_b
    dQUAD_LEFTWARDS_ARROW eRIGHTWARDS_b dCIRCLE_BACKSLASH dDOWN_TACK_UNDERBAR dDELTA_STILE
    dQUAD_DOWN_CARET eDELTA dDOWN_TACK_JOT dUPWARDS_VANE dQUAD_UPWARDS_ARROW dUP_TACK_OVERBAR
    dDEL_STILE dQUAD_UP_CARET eDEL dUP_TACK_JOT dDOWNWARDS_VANE dQUAD_DOWNWARDS_ARROW
    dQUOTE_UNDERBAR dDELTA_b dDIAMOND_b dJOT_b dCIRCLE_b dUP_SHOE_JOT dQUOTE_QUAD dCIRCLE_STAR
    dQUAD_COLON dUP_TACK_DIAERESIS dDEL_b dSTAR_b dJOT_b dCIRCLE_b dDOWN_SHOE_STILE dLEFT_c
    dTILDE_DIAERESIS dGREATER-THAN_b dCOMMA_BAR dDEL_TILDE dZILDE dSTILE_TILDE dSEMICOLON_UNDERBAR
    dQUAD_NOT_EQUAL eQUESTION dDOWN_CARET_TILDE dUP_c dIOTA dRHO dOMEGA dALPHA_UNDERBAR dEPSILON_b
    dIOTA_b dOMEGA_b dALPHA aNOT_CHECK_MARK aRIGHT_ANGLE_WITH_DOWNWARDS_ZIGZAG_ARROW
    aSHOULDERED_OPEN_BOX aBELL_SYMBOL aVERTICAL_LINE_WITH_MIDDLE_DOT aINSERTION_SYMBOL
    aCONTINUOUS_UNDERLINE_b aDISCONTINUOUS_c aEMPHASIS_b aCOMPOSITION_b
    aWHITE_SQUARE_WITH_CENTRE_VERTICAL_LINE aENTER_SYMBOL aALTERNATIVE_KEY_b aHELM_b
    aCIRCLED_HORIZONTAL_BAR_WITH_NOTCH bTRIANGLE_DOWN aBROKEN_CIRCLE_WITH_NORTHWEST_ARROW
    aUNDO_SYMBOL aMONOSTABLE_b aHYSTERESIS_b aOPEN-CIRCUIT-OUTPUT_H-TYPE_b dL-c
    aPASSIVE-PULL-DOWN-OUTPUT_b cUP-c aDIRECT_CURRENT_SYMBOL_FORM_TWO aSOFTWARE-FUNCTION_SYMBOL
    aAPL_FUNCTIONAL_SYMBOL_QUAD aDECIMAL_SEPARATOR_KEY_SYMBOL aPREVIOUS_PAGE aNEXT_b
    aPRINT_SCREEN_SYMBOL aCLEAR_c aLEFT_PARENTHESIS_UPPER_HOOK cEXTENSION cLOWER_HOOK
    aRIGHT_PARENTHESIS_UPPER_b cEXTENSION cLOWER_HOOK aLEFT_SQUARE_BRACKET_UPPER_CORNER dEXTENSION
    dLOWER_CORNER aRIGHT_SQUARE_BRACKET_UPPER_b dEXTENSION dLOWER_CORNER
    aLEFT_CURLY_BRACKET_UPPER_HOOK dMIDDLE_PIECE dLOWER_HOOK aCURLY_BRACKET_EXTENSION
    aRIGHT_CURLY_BRACKET_UPPER_HOOK dMIDDLE_PIECE dLOWER_HOOK aINTEGRAL_EXTENSION aHORIZONTAL_LINE_b
    aUPPER_LEFT_OR_LOWER_RIGHT_CURLY_BRACKET_SECTION bRIGHT_OR_LOWER_LEFT_d aSUMMATION_TOP bBOTTOM
    aTOP_SQUARE_BRACKET aBOTTOM_c cBRACKET_OVER_TOP_SQUARE_b aRADICAL_SYMBOL_BOTTOM
    aLEFT_VERTICAL_BOX_LINE aRIGHT_d aHORIZONTAL_SCAN_LINE-1 d3 d7 d9
    aDENTISTRY_SYMBOL_LIGHT_VERTICAL_AND_TOP_RIGHT fBOTTOM_b eWITH_CIRCLE dDOWN_AND_HORIZONTAL_c
    dUP_e dVERTICAL_WITH_TRIANGLE dDOWN_AND_HORIZONTAL_c dUP_e dVERTICAL_AND_WAVE
    dDOWN_AND_HORIZONTAL_WITH_b dUP_e dDOWN_AND_HORIZONTAL dUP_c dVERTICAL_AND_TOP_LEFT fBOTTOM_b
    aSQUARE_FOOT aRETURN_SYMBOL aEJECT_b aVERTICAL_LINE_EXTENSION aMETRICAL_BREVE bLONG_OVER_SHORT
    bSHORT_OVER_LONG bLONG_OVER_TWO_SHORTS bTWO_SHORTS_OVER_LONG dJOINED bTRISEME bTETRASEME
    bPENTASEME aEARTH_GROUND aFUSE aTOP_PARENTHESIS aBOTTOM_b aTOP_CURLY_BRACKET aBOTTOM_c
    aTOP_TORTOISE_SHELL_b aBOTTOM_d aWHITE_TRAPEZIUM aBENZENE_RING_WITH_CIRCLE aSTRAIGHTNESS
    aFLATNESS aAC_CURRENT aELECTRICAL_INTERSECTION aDECIMAL_EXPONENT_SYMBOL
    aBLACK_RIGHT-POINTING_DOUBLE_TRIANGLE bLEFT-d bUP-d bDOWN-d
    bRIGHT-POINTING_DOUBLE_TRIANGLE_WITH_VERTICAL_BAR bLEFT-g bRIGHT-POINTING_TRIANGLE_WITH_DOUBLE_c
    aALARM_CLOCK aSTOPWATCH aTIMER_CLOCK aHOURGLASS_WITH_FLOWING_SAND
    aBLACK_MEDIUM_LEFT-POINTING_TRIANGLE cRIGHT-c cUP-c cDOWN-c aDOUBLE_VERTICAL_BAR
    aBLACK_SQUARE_FOR_STOP bCIRCLE_FOR_RECORD aPOWER_SYMBOL bON-OFF_b bON_b bSLEEP_b aOBSERVER_EYE_b
    aSYMBOL_FOR_NULL cSTART_OF_HEADING eTEXT cEND_c eTRANSMISSION cENQUIRY cACKNOWLEDGE cBELL
    cBACKSPACE cHORIZONTAL_TABULATION cLINE_FEED cVERTICAL_TABULATION cFORM_FEED cCARRIAGE_RETURN
    cSHIFT_OUT dIN cDATA_LINK_ESCAPE cDEVICE_CONTROL_ONE eTWO eTHREE eFOUR cNEGATIVE_ACKNOWLEDGE
    cSYNCHRONOUS_IDLE cEND_OF_TRANSMISSION_BLOCK cCANCEL cEND_OF_MEDIUM cSUBSTITUTE cESCAPE
    cFILE_SEPARATOR cGROUP_b cRECORD_b cUNIT_b cSPACE cDELETE aBLANK_SYMBOL aOPEN_BOX
    aSYMBOL_FOR_NEWLINE cDELETE_FORM_TWO cSUBSTITUTE_c 2440 aOCR_HOOK bCHAIR bFORK bINVERTED_b
    bBELT_BUCKLE bBOW_TIE bBRANCH_BANK_IDENTIFICATION bAMOUNT_OF_CHECK bDASH
    bCUSTOMER_ACCOUNT_NUMBER bDOUBLE_BACKSLASH 2460 aCIRCLED_DIGIT_ONE cTWO cTHREE cFOUR cFIVE cSIX
    cSEVEN cEIGHT cNINE bNUMBER_TEN cELEVEN cTWELVE cTHIRTEEN cFOURTEEN cFIFTEEN cSIXTEEN cSEVENTEEN
    cEIGHTEEN cNINETEEN cTWENTY aPARENTHESIZED_DIGIT_ONE cTWO cTHREE cFOUR cFIVE cSIX cSEVEN cEIGHT
    cNINE bNUMBER_TEN cELEVEN cTWELVE cTHIRTEEN cFOURTEEN cFIFTEEN cSIXTEEN cSEVENTEEN cEIGHTEEN
    cNINETEEN cTWENTY aDIGIT_ONE_FULL_STOP bTWO_c bTHREE_c bFOUR_c bFIVE_c bSIX_c bSEVEN_c bEIGHT_c
    bNINE_c aNUMBER_TEN_c bELEVEN_c bTWELVE_c bTHIRTEEN_c bFOURTEEN_c bFIFTEEN_c bSIXTEEN_c
    bSEVENTEEN_c bEIGHTEEN_c bNINETEEN_c bTWENTY_c aPARENTHESIZED_LATIN_SMALL_LETTER_A eB eC eD eE
    eF eG eH eI eJ eK eL eM eN eO eP eQ eR eS eT eU eV eW eX eY eZ aCIRCLED_LATIN_CAPITAL_LETTER_A
    eB eC eD eE eF eG eH eI eJ eK eL eM eN eO eP eQ eR eS eT eU eV eW eX eY eZ cSMALL_LETTER_A eB eC
    eD eE eF eG eH eI eJ eK eL eM eN eO eP eQ eR eS eT eU eV eW eX eY eZ bDIGIT_ZERO
    aNEGATIVE_CIRCLED_NUMBER_ELEVEN dTWELVE dTHIRTEEN dFOURTEEN dFIFTEEN dSIXTEEN dSEVENTEEN
    dEIGHTEEN dNINETEEN dTWENTY aDOUBLE_CIRCLED_DIGIT_ONE dTWO dTHREE dFOUR dFIVE dSIX dSEVEN dEIGHT
    dNINE cNUMBER_TEN aNEGATIVE_CIRCLED_DIGIT_ZERO aBOX_DRAWINGS_LIGHT_HORIZONTAL cHEAVY_b
    cLIGHT_VERTICAL cHEAVY_b cLIGHT_TRIPLE_DASH_HORIZONTAL cHEAVY_d cLIGHT_TRIPLE_DASH_VERTICAL
    cHEAVY_d cLIGHT_QUADRUPLE_DASH_HORIZONTAL cHEAVY_d cLIGHT_QUADRUPLE_DASH_VERTICAL cHEAVY_d
    cLIGHT_DOWN_AND_RIGHT cDOWN_LIGHT_AND_RIGHT_HEAVY dHEAVY_AND_RIGHT_LIGHT cHEAVY_DOWN_AND_RIGHT
    cLIGHT_DOWN_AND_LEFT cDOWN_LIGHT_AND_LEFT_HEAVY dHEAVY_AND_LEFT_LIGHT cHEAVY_DOWN_AND_LEFT
    cLIGHT_UP_AND_RIGHT cUP_LIGHT_AND_RIGHT_HEAVY dHEAVY_AND_RIGHT_LIGHT cHEAVY_UP_AND_RIGHT
    cLIGHT_UP_AND_LEFT cUP_LIGHT_AND_LEFT_HEAVY dHEAVY_AND_LEFT_LIGHT cHEAVY_UP_AND_LEFT
    cLIGHT_VERTICAL_AND_RIGHT cVERTICAL_LIGHT_AND_RIGHT_HEAVY cUP_HEAVY_AND_RIGHT_DOWN_LIGHT
    cDOWN_HEAVY_AND_RIGHT_UP_b cVERTICAL_HEAVY_AND_RIGHT_b cDOWN_LIGHT_AND_RIGHT_UP_HEAVY
    cUP_LIGHT_AND_RIGHT_DOWN_b cHEAVY_VERTICAL_AND_RIGHT cLIGHT_VERTICAL_AND_LEFT
    cVERTICAL_LIGHT_AND_LEFT_HEAVY cUP_HEAVY_AND_LEFT_DOWN_LIGHT cDOWN_HEAVY_AND_LEFT_UP_b
    cVERTICAL_HEAVY_AND_LEFT_b cDOWN_LIGHT_AND_LEFT_UP_HEAVY cUP_LIGHT_AND_LEFT_DOWN_b
    cHEAVY_VERTICAL_AND_LEFT cLIGHT_DOWN_AND_HORIZONTAL cLEFT_HEAVY_AND_RIGHT_DOWN_LIGHT
    cRIGHT_HEAVY_AND_LEFT_c cDOWN_LIGHT_AND_HORIZONTAL_HEAVY dHEAVY_AND_HORIZONTAL_LIGHT
    cRIGHT_LIGHT_AND_LEFT_DOWN_HEAVY cLEFT_LIGHT_AND_RIGHT_c cHEAVY_DOWN_AND_HORIZONTAL cLIGHT_UP_c
    cLEFT_HEAVY_AND_RIGHT_UP_LIGHT cRIGHT_HEAVY_AND_LEFT_c cUP_LIGHT_AND_HORIZONTAL_HEAVY
    dHEAVY_AND_HORIZONTAL_LIGHT cRIGHT_LIGHT_AND_LEFT_UP_HEAVY cLEFT_LIGHT_AND_RIGHT_c
    cHEAVY_UP_AND_HORIZONTAL cLIGHT_VERTICAL_c cLEFT_HEAVY_AND_RIGHT_VERTICAL_LIGHT
    cRIGHT_HEAVY_AND_LEFT_c cVERTICAL_LIGHT_AND_HORIZONTAL_HEAVY cUP_HEAVY_AND_DOWN_HORIZONTAL_LIGHT
    cDOWN_HEAVY_AND_UP_c cVERTICAL_HEAVY_AND_c cLEFT_UP_HEAVY_AND_RIGHT_DOWN_b
    cRIGHT_UP_HEAVY_AND_LEFT_c cLEFT_DOWN_HEAVY_AND_RIGHT_UP_b cRIGHT_DOWN_HEAVY_AND_LEFT_c
    cDOWN_LIGHT_AND_UP_HORIZONTAL_HEAVY cUP_LIGHT_AND_DOWN_c cRIGHT_LIGHT_AND_LEFT_VERTICAL_b
    cLEFT_LIGHT_AND_RIGHT_c cHEAVY_VERTICAL_AND_HORIZONTAL cLIGHT_DOUBLE_DASH_b cHEAVY_d
    cLIGHT_DOUBLE_DASH_VERTICAL cHEAVY_d cDOUBLE_HORIZONTAL dVERTICAL cDOWN_SINGLE_AND_RIGHT_DOUBLE
    dDOUBLE_AND_RIGHT_SINGLE cDOUBLE_DOWN_AND_RIGHT cDOWN_SINGLE_AND_LEFT_DOUBLE
    dDOUBLE_AND_LEFT_SINGLE cDOUBLE_DOWN_AND_LEFT cUP_SINGLE_AND_RIGHT_DOUBLE
    dDOUBLE_AND_RIGHT_SINGLE cDOUBLE_UP_AND_RIGHT cUP_SINGLE_AND_LEFT_DOUBLE dDOUBLE_AND_LEFT_SINGLE
    cDOUBLE_UP_AND_LEFT cVERTICAL_SINGLE_AND_RIGHT_DOUBLE dDOUBLE_AND_RIGHT_SINGLE
    cDOUBLE_VERTICAL_AND_RIGHT cVERTICAL_SINGLE_AND_LEFT_DOUBLE dDOUBLE_AND_LEFT_SINGLE
    cDOUBLE_VERTICAL_AND_LEFT cDOWN_SINGLE_AND_HORIZONTAL_DOUBLE dDOUBLE_AND_HORIZONTAL_SINGLE
    cDOUBLE_DOWN_AND_HORIZONTAL cUP_SINGLE_AND_HORIZONTAL_DOUBLE dDOUBLE_AND_HORIZONTAL_SINGLE
    cDOUBLE_UP_AND_HORIZONTAL cVERTICAL_SINGLE_AND_HORIZONTAL_DOUBLE dDOUBLE_AND_HORIZONTAL_SINGLE
    cDOUBLE_VERTICAL_AND_HORIZONTAL cLIGHT_ARC_DOWN_AND_RIGHT gLEFT eUP_c gRIGHT
    dDIAGONAL_UPPER_RIGHT_TO_LOWER_LEFT fLEFT_TO_LOWER_RIGHT eCROSS dLEFT dUP dRIGHT dDOWN
    cHEAVY_LEFT dUP dRIGHT dDOWN cLIGHT_LEFT_AND_HEAVY_RIGHT dUP_AND_HEAVY_DOWN
    cHEAVY_LEFT_AND_LIGHT_RIGHT dUP_AND_LIGHT_DOWN aUPPER_HALF_BLOCK aLOWER_ONE_EIGHTH_b cQUARTER_b
    bTHREE_EIGHTHS_b bHALF_b bFIVE_EIGHTHS_b bTHREE_QUARTERS_b bSEVEN_EIGHTHS_b aFULL_b
    aLEFT_SEVEN_EIGHTHS_b bTHREE_QUARTERS_b bFIVE_EIGHTHS_b bHALF_b bTHREE_EIGHTHS_b bONE_QUARTER_b
    cEIGHTH_b aRIGHT_HALF_b aLIGHT_SHADE aMEDIUM_b aDARK_b aUPPER_ONE_EIGHTH_BLOCK aRIGHT_d
    aQUADRANT_LOWER_LEFT cRIGHT bUPPER_LEFT cLEFT_AND_LOWER_LEFT_AND_LOWER_RIGHT fb
    eUPPER_RIGHT_AND_LOWER_LEFT iRIGHT cb cRIGHT_AND_LOWER_LEFT fLEFT_AND_LOWER_RIGHT aBLACK_SQUARE
    aWHITE_b bSQUARE_WITH_ROUNDED_CORNERS cCONTAINING_BLACK_SMALL_SQUARE
    aSQUARE_WITH_HORIZONTAL_FILL cVERTICAL_b cORTHOGONAL_CROSSHATCH_b cUPPER_LEFT_TO_LOWER_RIGHT_b
    dRIGHT_TO_LOWER_LEFT_b cDIAGONAL_CROSSHATCH_b aBLACK_SMALL_SQUARE aWHITE_c aBLACK_RECTANGLE
    aWHITE_b aBLACK_VERTICAL_b aWHITE_c aBLACK_PARALLELOGRAM aWHITE_b aBLACK_UP-POINTING_TRIANGLE
    aWHITE_d aBLACK_UP-POINTING_SMALL_b aWHITE_e aBLACK_RIGHT-POINTING_b aWHITE_d
    aBLACK_RIGHT-POINTING_SMALL_b aWHITE_e aBLACK_RIGHT-POINTING_POINTER aWHITE_d
    aBLACK_DOWN-POINTING_TRIANGLE aWHITE_d aBLACK_DOWN-POINTING_SMALL_b aWHITE_e
    aBLACK_LEFT-POINTING_b aWHITE_d aBLACK_LEFT-POINTING_SMALL_b aWHITE_e
    aBLACK_LEFT-POINTING_POINTER aWHITE_d aBLACK_DIAMOND aWHITE_b bDIAMOND_CONTAINING_BLACK_SMALL_b
    aFISHEYE aLOZENGE aWHITE_CIRCLE aDOTTED_b aCIRCLE_WITH_VERTICAL_FILL aBULLSEYE aBLACK_CIRCLE
    aCIRCLE_WITH_LEFT_HALF_BLACK cRIGHT_c cLOWER_c cUPPER_c dRIGHT_QUADRANT_b cALL_BUT_UPPER_LEFT_c
    aLEFT_HALF_BLACK_CIRCLE aRIGHT_d aINVERSE_BULLET bWHITE_CIRCLE aUPPER_HALF_d aLOWER_e
    aUPPER_LEFT_QUADRANT_CIRCULAR_ARC bRIGHT_d aLOWER_e bLEFT_d aUPPER_HALF_CIRCLE aLOWER_c
    aBLACK_LOWER_RIGHT_TRIANGLE cLEFT_b bUPPER_c cRIGHT_b aWHITE_BULLET aSQUARE_WITH_LEFT_HALF_BLACK
    cRIGHT_c cUPPER_LEFT_DIAGONAL_c cLOWER_RIGHT_d aWHITE_SQUARE_WITH_VERTICAL_BISECTING_LINE
    bUP-POINTING_TRIANGLE_WITH_DOT aUP-POINTING_TRIANGLE_WITH_LEFT_HALF_BLACK eRIGHT_c aLARGE_CIRCLE
    aWHITE_SQUARE_WITH_UPPER_LEFT_QUADRANT dLOWER_c eRIGHT_b dUPPER_c bCIRCLE_WITH_UPPER_LEFT_b
    dLOWER_c eRIGHT_b dUPPER_c aUPPER_LEFT_TRIANGLE bRIGHT_b aLOWER_LEFT_b aWHITE_MEDIUM_SQUARE
    aBLACK_c aWHITE_MEDIUM_SMALL_b aBLACK_d aLOWER_RIGHT_TRIANGLE aBLACK_SUN_WITH_RAYS aCLOUD
    aUMBRELLA aSNOWMAN aCOMET aBLACK_STAR aWHITE_b aLIGHTNING aTHUNDERSTORM aSUN aASCENDING_NODE
    aDESCENDING_b aCONJUNCTION aOPPOSITION aBLACK_TELEPHONE aWHITE_b aBALLOT_BOX bBOX_WITH_CHECK dX
    aSALTIRE aUMBRELLA_WITH_RAIN_DROPS aHOT_BEVERAGE aWHITE_SHOGI_PIECE aBLACK_c aSHAMROCK
    aREVERSED_ROTATED_FLORAL_HEART_BULLET aBLACK_LEFT_POINTING_INDEX bRIGHT_c aWHITE_LEFT_c bUP_c
    bRIGHT_c bDOWN_c aSKULL_AND_CROSSBONES aCAUTION_SIGN aRADIOACTIVE_b aBIOHAZARD_b aCADUCEUS aANKH
    aORTHODOX_CROSS aCHI_RHO aCROSS_OF_LORRAINE cJERUSALEM aSTAR_AND_CRESCENT aFARSI_SYMBOL
    aADI_SHAKTI aHAMMER_AND_SICKLE aPEACE_SYMBOL aYIN_YANG aTRIGRAM_FOR_HEAVEN cLAKE cFIRE cTHUNDER
    cWIND cWATER cMOUNTAIN cEARTH aWHEEL_OF_DHARMA aWHITE_FROWNING_FACE bSMILING_b aBLACK_c
    aWHITE_SUN_WITH_RAYS aFIRST_QUARTER_MOON aLAST_c aMERCURY aFEMALE_SIGN aEARTH aMALE_SIGN
    aJUPITER aSATURN aURANUS aNEPTUNE aPLUTO aARIES aTAURUS aGEMINI aCANCER aLEO aVIRGO aLIBRA
    aSCORPIUS aSAGITTARIUS aCAPRICORN aAQUARIUS aPISCES aWHITE_CHESS_KING cQUEEN cROOK cBISHOP
    cKNIGHT cPAWN aBLACK_CHESS_KING cQUEEN cROOK cBISHOP cKNIGHT cPAWN bSPADE_SUIT aWHITE_HEART_b
    bDIAMOND_b aBLACK_CLUB_b aWHITE_SPADE_b aBLACK_HEART_b bDIAMOND_b aWHITE_CLUB_b aHOT_SPRINGS
    aQUARTER_NOTE aEIGHTH_b aBEAMED_EIGHTH_NOTES bSIXTEENTH_b aMUSIC_FLAT_SIGN bNATURAL_b bSHARP_b
    aWEST_SYRIAC_CROSS aEAST_c aUNIVERSAL_RECYCLING_SYMBOL aRECYCLING_SYMBOL_FOR_TYPE-1_PLASTICS
    e2_b e3_b e4_b e5_b e6_b e7_b dGENERIC_MATERIALS aBLACK_UNIVERSAL_RECYCLING_SYMBOL
    aRECYCLED_PAPER_b aPARTIALLY-d aPERMANENT_PAPER_SIGN aWHEELCHAIR_SYMBOL aDIE_FACE-1 c2 c3 c4 c5
    c6 aWHITE_CIRCLE_WITH_DOT_RIGHT dTWO_DOTS aBLACK_CIRCLE_WITH_WHITE_DOT_RIGHT dTWO_WHITE_DOTS
    aMONOGRAM_FOR_YANG cYIN aDIGRAM_FOR_GREATER_YANG cLESSER_YIN dYANG cGREATER_YIN aWHITE_FLAG
    aBLACK_b aHAMMER_AND_PICK aANCHOR aCROSSED_SWORDS aSTAFF_OF_AESCULAPIUS aSCALES aALEMBIC aFLOWER
    aGEAR aSTAFF_OF_HERMES aATOM_SYMBOL aFLEUR-DE-LIS aOUTLINED_WHITE_STAR
    aTHREE_LINES_CONVERGING_RIGHT dLEFT aWARNING_SIGN aHIGH_VOLTAGE_b aDOUBLED_FEMALE_b bMALE_b
    aINTERLOCKED_FEMALE_AND_c aMALE_AND_FEMALE_b bWITH_STROKE_b dAND_MALE_AND_FEMALE_b
    aVERTICAL_MALE_WITH_STROKE_b aHORIZONTAL_e aMEDIUM_WHITE_CIRCLE bBLACK_b bSMALL_WHITE_b
    aMARRIAGE_SYMBOL aDIVORCE_b aUNMARRIED_PARTNERSHIP_b aCOFFIN aFUNERAL_URN aNEUTER aCERES aPALLAS
    aJUNO aVESTA aCHIRON aBLACK_MOON_LILITH aSEXTILE aSEMISEXTILE aQUINCUNX aSESQUIQUADRATE
    aSOCCER_BALL aBASEBALL aSQUARED_KEY aWHITE_DRAUGHTS_MAN cKING aBLACK_DRAUGHTS_MAN cKING
    aSNOWMAN_WITHOUT_SNOW aSUN_BEHIND_CLOUD aRAIN aBLACK_SNOWMAN aTHUNDER_CLOUD_AND_RAIN
    aTURNED_WHITE_SHOGI_PIECE bBLACK_c aWHITE_DIAMOND_IN_SQUARE aCROSSING_LANES aDISABLED_CAR
    aOPHIUCHUS aPICK aCAR_SLIDING aHELMET_WITH_WHITE_CROSS aCIRCLED_CROSSING_LANES aCHAINS aNO_ENTRY
    aALTERNATE_ONE-WAY_LEFT_WAY_TRAFFIC aBLACK_TWO-e aWHITE_f aBLACK_LEFT_LANE_MERGE aWHITE_d
    aDRIVE_SLOW_SIGN aHEAVY_WHITE_DOWN-POINTING_TRIANGLE aLEFT_CLOSED_ENTRY aSQUARED_SALTIRE
    aFALLING_DIAGONAL_IN_WHITE_CIRCLE_IN_BLACK_SQUARE aBLACK_TRUCK aRESTRICTED_LEFT_ENTRY-1 d2
    aASTRONOMICAL_SYMBOL_FOR_URANUS aHEAVY_CIRCLE_WITH_STROKE_AND_TWO_DOTS_ABOVE aPENTAGRAM
    aRIGHT-HANDED_INTERLACED_b aLEFT-d aINVERTED_b aBLACK_CROSS_ON_SHIELD aSHINTO_SHRINE aCHURCH
    aCASTLE aHISTORIC_SITE aGEAR_WITHOUT_HUB bWITH_HANDLES aMAP_SYMBOL_FOR_LIGHTHOUSE aMOUNTAIN
    aUMBRELLA_ON_GROUND aFOUNTAIN aFLAG_IN_HOLE aFERRY aSAILBOAT aSQUARE_FOUR_CORNERS aSKIER
    aICE_SKATE aPERSON_WITH_BALL aTENT aJAPANESE_BANK_SYMBOL aHEADSTONE_GRAVEYARD_b aFUEL_PUMP
    aCUP_ON_BLACK_SQUARE aWHITE_FLAG_WITH_HORIZONTAL_MIDDLE_BLACK_STRIPE aBLACK_SAFETY_SCISSORS
    aUPPER_BLADE_b aBLACK_b aLOWER_BLADE_b aWHITE_b bHEAVY_CHECK_MARK aTELEPHONE_LOCATION_SIGN
    aTAPE_DRIVE aAIRPLANE aENVELOPE aRAISED_FIST bHAND aVICTORY_b aWRITING_b aLOWER_RIGHT_PENCIL ab
    aUPPER_RIGHT_b aWHITE_NIB aBLACK_b aCHECK_MARK aHEAVY_c aMULTIPLICATION_X aHEAVY_c aBALLOT_b
    aHEAVY_c aOUTLINED_GREEK_CROSS aHEAVY_c aOPEN_CENTRE_b aHEAVY_d aLATIN_b aSHADOWED_WHITE_c
    aOUTLINED_c aMALTESE_b aSTAR_OF_DAVID aFOUR_TEARDROP-SPOKED_ASTERISK bBALLOON-c aHEAVY_e
    aFOUR_CLUB-c aBLACK_FOUR_POINTED_STAR aWHITE_d aSPARKLES aSTRESS_OUTLINED_WHITE_STAR aCIRCLED_c
    aOPEN_CENTRE_BLACK_b aBLACK_CENTRE_WHITE_b aOUTLINED_BLACK_b aHEAVY_d aPINWHEEL_b
    aSHADOWED_WHITE_b aHEAVY_ASTERISK aOPEN_CENTRE_b aEIGHT_SPOKED_b bPOINTED_BLACK_STAR cPINWHEEL_b
    aSIX_POINTED_BLACK_b aEIGHT_POINTED_RECTILINEAR_c aHEAVY_f aTWELVE_POINTED_c
    aSIXTEEN_POINTED_ASTERISK aTEARDROP-SPOKED_b aOPEN_CENTRE_d aHEAVY_d
    aSIX_PETALLED_BLACK_AND_WHITE_FLORETTE aBLACK_b aWHITE_b aEIGHT_PETALLED_OUTLINED_BLACK_b
    aCIRCLED_OPEN_CENTRE_EIGHT_POINTED_STAR aHEAVY_TEARDROP-SPOKED_PINWHEEL_ASTERISK aSNOWFLAKE
    aTIGHT_TRIFOLIATE_b aHEAVY_CHEVRON_b aSPARKLE aHEAVY_b aBALLOON-SPOKED_ASTERISK
    aEIGHT_TEARDROP-SPOKED_PROPELLER_b aHEAVY_f aCROSS_MARK aSHADOWED_WHITE_CIRCLE
    aNEGATIVE_SQUARED_CROSS_MARK aLOWER_RIGHT_DROP-SHADOWED_WHITE_SQUARE aUPPER_f aLOWER_RIGHT_d
    aUPPER_e aBLACK_QUESTION_MARK_ORNAMENT aWHITE_d bEXCLAMATION_c aBLACK_DIAMOND_MINUS_WHITE_X
    aHEAVY_EXCLAMATION_MARK_SYMBOL aLIGHT_VERTICAL_BAR aMEDIUM_c aHEAVY_c
    bSINGLE_TURNED_COMMA_QUOTATION_MARK_ORNAMENT ce bDOUBLE_TURNED_e ce bLOW_SINGLE_e cDOUBLE_e
    aCURVED_STEM_PARAGRAPH_SIGN_b aHEAVY_EXCLAMATION_MARK_b bHEART_d bBLACK_HEART
    aROTATED_HEAVY_BLACK_HEART_BULLET aFLORAL_HEART aROTATED_FLORAL_HEART_BULLET
    aMEDIUM_LEFT_PARENTHESIS_ORNAMENT bRIGHT_c bFLATTENED_LEFT_c cRIGHT_c
    bLEFT-POINTING_ANGLE_BRACKET_b bRIGHT-e aHEAVY_LEFT-POINTING_ANGLE_QUOTATION_MARK_b bRIGHT-f
    bLEFT-POINTING_ANGLE_BRACKET_b bRIGHT-e aLIGHT_LEFT_TORTOISE_SHELL_c bRIGHT_e
    aMEDIUM_LEFT_CURLY_c bRIGHT_d aDINGBAT_NEGATIVE_CIRCLED_DIGIT_ONE eTWO eTHREE eFOUR eFIVE eSIX
    eSEVEN eEIGHT eNINE dNUMBER_TEN bCIRCLED_SANS-SERIF_DIGIT_ONE fTWO fTHREE fFOUR fFIVE fSIX
    fSEVEN fEIGHT fNINE eNUMBER_TEN bNEGATIVE_CIRCLED_SANS-SERIF_DIGIT_ONE gTWO gTHREE gFOUR gFIVE
    gSIX gSEVEN gEIGHT gNINE fNUMBER_TEN aHEAVY_WIDE-HEADED_RIGHTWARDS_ARROW bPLUS_SIGN bMINUS_b
    bDIVISION_b bSOUTH_EAST_ARROW bRIGHTWARDS_b bNORTH_EAST_b aDRAFTING_POINT_RIGHTWARDS_b
    aHEAVY_ROUND-TIPPED_c aTRIANGLE-HEADED_c aHEAVY_e aDASHED_e aHEAVY_f aBLACK_c
    aTHREE-D_TOP-LIGHTED_RIGHTWARDS_ARROWHEAD cBOTTOM-d aBLACK_c
    aHEAVY_BLACK_CURVED_DOWNWARDS_AND_RIGHTWARDS_ARROW dUPWARDS_d aSQUAT_BLACK_c
    aHEAVY_CONCAVE-POINTED_d aRIGHT-SHADED_WHITE_c aLEFT-e aBACK-TILTED_SHADOWED_d aFRONT-f
    aHEAVY_LOWER_RIGHT-e bUPPER_f aNOTCHED_LOWER_f aCURLY_LOOP
    aNOTCHED_UPPER_RIGHT-SHADOWED_WHITE_RIGHTWARDS_ARROW aCIRCLED_HEAVY_d aWHITE-FEATHERED_c
    aBLACK-FEATHERED_SOUTH_EAST_b cRIGHTWARDS_b cNORTH_EAST_b aHEAVY_BLACK-FEATHERED_SOUTH_c
    dRIGHTWARDS_b dNORTH_EAST_b aTEARDROP-BARBED_RIGHTWARDS_b aHEAVY_TEARDROP-SHANKED_c
    aWEDGE-TAILED_c aHEAVY_e aOPEN-OUTLINED_c aDOUBLE_CURLY_LOOP aTHREE_DIMENSIONAL_ANGLE
    aWHITE_TRIANGLE_CONTAINING_SMALL_WHITE_TRIANGLE aPERPENDICULAR aOPEN_SUBSET bSUPERSET
    aLEFT_S-SHAPED_BAG_DELIMITER aRIGHT_e aOR_WITH_DOT_INSIDE aREVERSE_SOLIDUS_PRECEDING_SUBSET
    aSUPERSET_PRECEDING_SOLIDUS aVERTICAL_BAR_WITH_HORIZONTAL_STROKE aMATHEMATICAL_RISING_DIAGONAL
    aLONG_DIVISION aMATHEMATICAL_FALLING_DIAGONAL aSQUARED_LOGICAL_AND cOR
    aWHITE_DIAMOND_WITH_CENTRED_DOT aAND_WITH_b aELEMENT_OF_OPENING_UPWARDS
    aLOWER_RIGHT_CORNER_WITH_DOT aUPPER_LEFT_d aLEFT_OUTER_JOIN aRIGHT_c aFULL_c aLARGE_UP_TACK
    bDOWN_b aLEFT_AND_RIGHT_DOUBLE_TURNSTILE dTACK bMULTIMAP aLONG_RIGHT_TACK bLEFT_b
    aUP_TACK_WITH_CIRCLE_ABOVE aLOZENGE_DIVIDED_BY_HORIZONTAL_RULE aWHITE_CONCAVE-SIDED_DIAMOND
    dDIAMOND_WITH_LEFTWARDS_TICK fRIGHTWARDS_b bSQUARE_WITH_LEFTWARDS_b dRIGHTWARDS_b
    aMATHEMATICAL_LEFT_WHITE_SQUARE_BRACKET bRIGHT_d bLEFT_ANGLE_b bRIGHT_c bLEFT_DOUBLE_c bRIGHT_d
    bLEFT_WHITE_TORTOISE_SHELL_b bRIGHT_e bLEFT_FLATTENED_PARENTHESIS bRIGHT_c
    aUPWARDS_QUADRUPLE_ARROW aDOWNWARDS_c aANTICLOCKWISE_GAPPED_CIRCLE_b aCLOCKWISE_d
    aRIGHT_ARROW_WITH_CIRCLED_PLUS aLONG_LEFTWARDS_ARROW bRIGHTWARDS_b bLEFT_RIGHT_b
    bLEFTWARDS_DOUBLE_b bRIGHTWARDS_c bLEFT_RIGHT_c bLEFTWARDS_ARROW_FROM_BAR bRIGHTWARDS_d
    bLEFTWARDS_DOUBLE_d bRIGHTWARDS_e cSQUIGGLE_ARROW aBRAILLE_PATTERN_BLANK cDOTS-1 d2 d12 d3 d13
    d23 d123 d4 d14 d24 d124 d34 d134 d234 d1234 d5 d15 d25 d125 d35 d135 d235 d1235 d45 d145 d245
    d1245 d345 d1345 d2345 d12345 d6 d16 d26 d126 d36 d136 d236 d1236 d46 d146 d246 d1246 d346 d1346
    d2346 d12346 d56 d156 d256 d1256 d356 d1356 d2356 d12356 d456 d1456 d2456 d12456 d3456 d13456
    d23456 d123456 d7 d17 d27 d127 d37 d137 d237 d1237 d47 d147 d247 d1247 d347 d1347 d2347 d12347
    d57 d157 d257 d1257 d357 d1357 d2357 d12357 d457 d1457 d2457 d12457 d3457 d13457 d23457 d123457
    d67 d167 d267 d1267 d367 d1367 d2367 d12367 d467 d1467 d2467 d12467 d3467 d13467 d23467 d123467
    d567 d1567 d2567 d12567 d3567 d13567 d23567 d123567 d4567 d14567 d24567 d124567 d34567 d134567
    d234567 d1234567 d8 d18 d28 d128 d38 d138 d238 d1238 d48 d148 d248 d1248 d348 d1348 d2348 d12348
    d58 d158 d258 d1258 d358 d1358 d2358 d12358 d458 d1458 d2458 d12458 d3458 d13458 d23458 d123458
    d68 d168 d268 d1268 d368 d1368 d2368 d12368 d468 d1468 d2468 d12468 d3468 d13468 d23468 d123468
    d568 d1568 d2568 d12568 d3568 d13568 d23568 d123568 d4568 d14568 d24568 d124568 d34568 d134568
    d234568 d1234568 d78 d178 d278 d1278 d378 d1378 d2378 d12378 d478 d1478 d2478 d12478 d3478
    d13478 d23478 d123478 d578 d1578 d2578 d12578 d3578 d13578 d23578 d123578 d4578 d14578 d24578
    d124578 d34578 d134578 d234578 d1234578 d678 d1678 d2678 d12678 d3678 d13678 d23678 d123678
    d4678 d14678 d24678 d124678 d34678 d134678 d234678 d1234678 d5678 d15678 d25678 d125678 d35678
    d135678 d235678 d1235678 d45678 d145678 d245678 d1245678 d345678 d1345678 d2345678 d12345678
    aRIGHTWARDS_TWO-HEADED_ARROW_WITH_VERTICAL_STROKE fDOUBLE_c aLEFTWARDS_DOUBLE_ARROW_WITH_c
    aRIGHTWARDS_f aLEFT_RIGHT_f aRIGHTWARDS_TWO-HEADED_ARROW_FROM_BAR aLEFTWARDS_DOUBLE_d
    aRIGHTWARDS_e aDOWNWARDS_ARROW_WITH_HORIZONTAL_STROKE aUPWARDS_e bTRIPLE_ARROW aDOWNWARDS_c
    aLEFTWARDS_DOUBLE_DASH_b aRIGHTWARDS_d aLEFTWARDS_TRIPLE_c aRIGHTWARDS_d bTWO-HEADED_d
    bARROW_WITH_DOTTED_STEM aUPWARDS_ARROW_TO_BAR aDOWNWARDS_d
    aRIGHTWARDS_ARROW_WITH_TAIL_WITH_VERTICAL_STROKE fDOUBLE_c bTWO-HEADED_ARROW_WITH_TAIL
    fTAIL_WITH_VERTICAL_STROKE hDOUBLE_c aLEFTWARDS_ARROW-TAIL aRIGHTWARDS_c aLEFTWARDS_DOUBLE_c
    aRIGHTWARDS_d aLEFTWARDS_ARROW_TO_BLACK_DIAMOND aRIGHTWARDS_e aLEFTWARDS_ARROW_FROM_BAR_d
    aRIGHTWARDS_g aNORTH_WEST_AND_SOUTH_EAST_ARROW bEAST_AND_SOUTH_WEST_b bWEST_ARROW_WITH_HOOK
    bEAST_d aSOUTH_e bWEST_d aNORTH_WEST_ARROW_AND_NORTH_EAST_ARROW bEAST_ARROW_AND_SOUTH_c
    aSOUTH_EAST_ARROW_AND_SOUTH_WEST_b bWEST_ARROW_AND_NORTH_c
    aRISING_DIAGONAL_CROSSING_FALLING_DIAGONAL aFALLING_DIAGONAL_CROSSING_RISING_b
    aSOUTH_EAST_ARROW_CROSSING_NORTH_EAST_ARROW aNORTH_EAST_ARROW_CROSSING_SOUTH_c
    aFALLING_DIAGONAL_CROSSING_NORTH_c aRISING_DIAGONAL_CROSSING_SOUTH_c
    aNORTH_EAST_ARROW_CROSSING_NORTH_WEST_b bWEST_ARROW_CROSSING_NORTH_EAST_b
    aWAVE_ARROW_POINTING_DIRECTLY_RIGHT aARROW_POINTING_RIGHTWARDS_THEN_CURVING_UPWARDS fDOWNWARDS
    cDOWNWARDS_THEN_CURVING_LEFTWARDS fRIGHTWARDS aRIGHT-SIDE_ARC_CLOCKWISE_ARROW
    aLEFT-SIDE_ARC_ANTICLOCKWISE_b aTOP_d aBOTTOM_d aTOP_ARC_CLOCKWISE_ARROW_WITH_MINUS
    cANTICLOCKWISE_ARROW_WITH_PLUS aLOWER_RIGHT_SEMICIRCULAR_CLOCKWISE_ARROW
    bLEFT_SEMICIRCULAR_ANTICLOCKWISE_b aANTICLOCKWISE_CLOSED_CIRCLE_b aCLOCKWISE_d
    aRIGHTWARDS_ARROW_ABOVE_SHORT_LEFTWARDS_b aLEFTWARDS_ARROW_ABOVE_SHORT_RIGHTWARDS_b
    aSHORT_RIGHTWARDS_ARROW_ABOVE_LEFTWARDS_b aRIGHTWARDS_ARROW_WITH_PLUS_BELOW aLEFTWARDS_e
    aRIGHTWARDS_ARROW_THROUGH_X aLEFT_RIGHT_ARROW_THROUGH_SMALL_CIRCLE
    aUPWARDS_TWO-HEADED_ARROW_FROM_c aLEFT_BARB_UP_RIGHT_BARB_DOWN_HARPOON cDOWN_RIGHT_BARB_UP_b
    aUP_BARB_RIGHT_DOWN_BARB_LEFT_b cLEFT_DOWN_BARB_RIGHT_b aLEFT_BARB_UP_RIGHT_BARB_UP_b
    aUP_BARB_RIGHT_DOWN_BARB_RIGHT_b aLEFT_BARB_DOWN_RIGHT_BARB_DOWN_b
    aUP_BARB_LEFT_DOWN_BARB_LEFT_b aLEFTWARDS_HARPOON_WITH_BARB_UP_TO_BAR aRIGHTWARDS_g
    aUPWARDS_HARPOON_WITH_BARB_RIGHT_c aDOWNWARDS_g aLEFTWARDS_HARPOON_WITH_BARB_DOWN_c
    aRIGHTWARDS_g aUPWARDS_HARPOON_WITH_BARB_LEFT_c aDOWNWARDS_g
    aLEFTWARDS_HARPOON_WITH_BARB_UP_FROM_b aRIGHTWARDS_g aUPWARDS_HARPOON_WITH_BARB_RIGHT_c
    aDOWNWARDS_g aLEFTWARDS_HARPOON_WITH_BARB_DOWN_c aRIGHTWARDS_g aUPWARDS_HARPOON_WITH_BARB_LEFT_c
    aDOWNWARDS_g aLEFTWARDS_HARPOON_WITH_BARB_UP_ABOVE_LEFTWARDS_HARPOON_WITH_BARB_DOWN
    aUPWARDS_HARPOON_WITH_BARB_LEFT_BESIDE_UPWARDS_HARPOON_WITH_BARB_RIGHT
    aRIGHTWARDS_HARPOON_WITH_BARB_UP_ABOVE_RIGHTWARDS_HARPOON_WITH_BARB_DOWN
    aDOWNWARDS_HARPOON_WITH_BARB_LEFT_BESIDE_DOWNWARDS_HARPOON_WITH_BARB_RIGHT
    aLEFTWARDS_HARPOON_WITH_BARB_UP_ABOVE_RIGHTWARDS_HARPOON_WITH_BARB_UP
    eDOWN_ABOVE_RIGHTWARDS_HARPOON_WITH_BARB_DOWN
    aRIGHTWARDS_HARPOON_WITH_BARB_UP_ABOVE_LEFTWARDS_HARPOON_WITH_BARB_UP
    eDOWN_ABOVE_LEFTWARDS_HARPOON_WITH_BARB_DOWN aLEFTWARDS_HARPOON_WITH_BARB_UP_ABOVE_LONG_DASH
    eDOWN_BELOW_c aRIGHTWARDS_HARPOON_WITH_BARB_UP_ABOVE_c eDOWN_BELOW_c
    aUPWARDS_HARPOON_WITH_BARB_LEFT_BESIDE_DOWNWARDS_HARPOON_WITH_BARB_RIGHT
    aDOWNWARDS_HARPOON_WITH_BARB_LEFT_BESIDE_UPWARDS_e aRIGHT_DOUBLE_ARROW_WITH_ROUNDED_HEAD
    aEQUALS_SIGN_ABOVE_RIGHTWARDS_ARROW aTILDE_OPERATOR_d aLEFTWARDS_ARROW_ABOVE_TILDE_OPERATOR
    aRIGHTWARDS_e dALMOST_EQUAL_TO aLESS-THAN_ABOVE_LEFTWARDS_ARROW
    aLEFTWARDS_ARROW_THROUGH_LESS-THAN aGREATER-THAN_ABOVE_RIGHTWARDS_ARROW aSUBSET_d
    aLEFTWARDS_ARROW_THROUGH_SUBSET aSUPERSET_ABOVE_LEFTWARDS_ARROW aLEFT_FISH_TAIL aRIGHT_c aUP_c
    aDOWN_c aTRIPLE_VERTICAL_BAR_DELIMITER aZ_NOTATION_SPOT cTYPE_COLON aLEFT_WHITE_CURLY_BRACKET
    aRIGHT_d aLEFT_WHITE_PARENTHESIS aRIGHT_c aZ_NOTATION_LEFT_IMAGE_BRACKET cRIGHT_c
    cLEFT_BINDING_b cRIGHT_c aLEFT_SQUARE_BRACKET_WITH_UNDERBAR aRIGHT_e
    aLEFT_SQUARE_BRACKET_WITH_TICK_IN_TOP_CORNER aRIGHT_SQUARE_BRACKET_WITH_TICK_IN_BOTTOM_b aLEFT_h
    aRIGHT_SQUARE_BRACKET_WITH_TICK_IN_TOP_b aLEFT_ANGLE_BRACKET_WITH_DOT aRIGHT_e
    aLEFT_ARC_LESS-THAN_BRACKET aRIGHT_ARC_GREATER-c aDOUBLE_LEFT_e bRIGHT_ARC_LESS-c
    aLEFT_BLACK_TORTOISE_SHELL_b aRIGHT_e aDOTTED_FENCE aVERTICAL_ZIGZAG_LINE
    aMEASURED_ANGLE_OPENING_LEFT aRIGHT_ANGLE_VARIANT_WITH_SQUARE aMEASURED_RIGHT_ANGLE_WITH_DOT
    aANGLE_WITH_S_INSIDE aACUTE_ANGLE aSPHERICAL_ANGLE_OPENING_LEFT dUP aTURNED_ANGLE aREVERSED_b
    aANGLE_WITH_UNDERBAR aREVERSED_d aOBLIQUE_ANGLE_OPENING_UP dDOWN
    aMEASURED_ANGLE_WITH_OPEN_ARM_ENDING_IN_ARROW_POINTING_UP_AND_RIGHT lLEFT jDOWN_AND_RIGHT lLEFT
    jRIGHT_AND_UP jLEFT_c jRIGHT_AND_DOWN jLEFT_c aREVERSED_EMPTY_SET aEMPTY_SET_WITH_OVERBAR
    dSMALL_CIRCLE_ABOVE dRIGHT_ARROW_b dLEFT_c aCIRCLE_WITH_HORIZONTAL_BAR aCIRCLED_VERTICAL_b
    bPARALLEL bREVERSE_SOLIDUS bPERPENDICULAR
    aCIRCLE_DIVIDED_BY_HORIZONTAL_BAR_AND_TOP_HALF_DIVIDED_BY_VERTICAL_BAR bWITH_SUPERIMPOSED_X
    aCIRCLED_ANTICLOCKWISE-ROTATED_DIVISION_SIGN aUP_ARROW_THROUGH_CIRCLE aCIRCLED_WHITE_BULLET bb
    bLESS-THAN bGREATER-b aCIRCLE_WITH_SMALL_CIRCLE_TO_THE_RIGHT cTWO_HORIZONTAL_STROKES_d
    aSQUARED_RISING_DIAGONAL_SLASH bFALLING_c bASTERISK bSMALL_CIRCLE bSQUARE aTWO_JOINED_SQUARES
    aTRIANGLE_WITH_DOT_ABOVE cUNDERBAR aS_IN_TRIANGLE aTRIANGLE_WITH_SERIFS_AT_BOTTOM
    aRIGHT_TRIANGLE_ABOVE_LEFT_TRIANGLE aLEFT_TRIANGLE_BESIDE_VERTICAL_BAR
    aVERTICAL_BAR_BESIDE_RIGHT_TRIANGLE aBOWTIE_WITH_LEFT_HALF_BLACK cRIGHT_c aBLACK_BOWTIE
    aTIMES_WITH_LEFT_HALF_BLACK cRIGHT_c aWHITE_HOURGLASS aBLACK_b aLEFT_WIGGLY_FENCE aRIGHT_c
    aLEFT_DOUBLE_c aRIGHT_d aINCOMPLETE_INFINITY aTIE_OVER_b aINFINITY_NEGATED_WITH_VERTICAL_BAR
    aDOUBLE-ENDED_MULTIMAP aSQUARE_WITH_CONTOURED_OUTLINE aINCREASES_AS aSHUFFLE_PRODUCT
    aEQUALS_SIGN_AND_SLANTED_PARALLEL ePARALLEL_WITH_TILDE_ABOVE aIDENTICAL_TO_AND_SLANTED_PARALLEL
    aGLEICH_STARK aTHERMODYNAMIC aDOWN-POINTING_TRIANGLE_WITH_LEFT_HALF_BLACK eRIGHT_c
    aBLACK_DIAMOND_WITH_DOWN_ARROW bLOZENGE aWHITE_CIRCLE_WITH_DOWN_ARROW aBLACK_e
    aERROR-BARRED_WHITE_SQUARE cBLACK_b cWHITE_DIAMOND cBLACK_b cWHITE_CIRCLE cBLACK_b aRULE-DELAYED
    aREVERSE_SOLIDUS_OPERATOR aSOLIDUS_WITH_OVERBAR aREVERSE_SOLIDUS_WITH_HORIZONTAL_STROKE
    aBIG_SOLIDUS bREVERSE_b aDOUBLE_PLUS aTRIPLE_b aLEFT-POINTING_CURVED_ANGLE_BRACKET aRIGHT-e
    aTINY aMINY aN-ARY_CIRCLED_DOT_OPERATOR dPLUS_b dTIMES_b cUNION_OPERATOR_WITH_DOT fPLUS
    cSQUARE_INTERSECTION_OPERATOR dUNION_b aTWO_LOGICAL_AND_b cOR_b aN-ARY_TIMES_b aMODULO_TWO_SUM
    aSUMMATION_WITH_INTEGRAL aQUADRUPLE_INTEGRAL_OPERATOR aFINITE_PART_INTEGRAL
    aINTEGRAL_WITH_DOUBLE_STROKE bAVERAGE_WITH_SLASH aCIRCULATION_FUNCTION
    aANTICLOCKWISE_INTEGRATION aLINE_INTEGRATION_WITH_RECTANGULAR_PATH_AROUND_POLE dSEMICIRCULAR_d
    cNOT_INCLUDING_THE_b aINTEGRAL_AROUND_A_POINT_OPERATOR aQUATERNION_INTEGRAL_b
    aINTEGRAL_WITH_LEFTWARDS_ARROW_WITH_HOOK cTIMES_SIGN cINTERSECTION cUNION cOVERBAR cUNDERBAR
    aJOIN aLARGE_LEFT_TRIANGLE_OPERATOR aZ_NOTATION_SCHEMA_COMPOSITION dPIPING dPROJECTION
    aPLUS_SIGN_WITH_SMALL_CIRCLE_ABOVE dCIRCUMFLEX_ACCENT_b dTILDE_b dDOT_BELOW dTILDE_b
    dSUBSCRIPT_TWO dBLACK_TRIANGLE aMINUS_SIGN_WITH_COMMA_ABOVE dDOT_BELOW dFALLING_DOTS dRISING_b
    aPLUS_SIGN_IN_LEFT_HALF_CIRCLE dRIGHT_c aVECTOR_OR_CROSS_PRODUCT
    aMULTIPLICATION_SIGN_WITH_DOT_ABOVE dUNDERBAR aSEMIDIRECT_PRODUCT_WITH_BOTTOM_CLOSED
    aSMASH_PRODUCT aMULTIPLICATION_SIGN_IN_LEFT_HALF_CIRCLE dRIGHT_c
    aCIRCLED_MULTIPLICATION_SIGN_WITH_CIRCUMFLEX_ACCENT aMULTIPLICATION_SIGN_IN_DOUBLE_CIRCLE
    aCIRCLED_DIVISION_SIGN aPLUS_SIGN_IN_TRIANGLE aMINUS_d aMULTIPLICATION_d aINTERIOR_PRODUCT
    aRIGHTHAND_c aZ_NOTATION_RELATIONAL_COMPOSITION aAMALGAMATION_OR_COPRODUCT
    aINTERSECTION_WITH_DOT aUNION_WITH_MINUS_SIGN cOVERBAR aINTERSECTION_c cLOGICAL_AND
    aUNION_WITH_LOGICAL_OR bABOVE_INTERSECTION aINTERSECTION_ABOVE_UNION
    aUNION_ABOVE_BAR_ABOVE_INTERSECTION aINTERSECTION_ABOVE_BAR_ABOVE_UNION
    aUNION_BESIDE_AND_JOINED_WITH_b aINTERSECTION_BESIDE_AND_JOINED_WITH_INTERSECTION
    aCLOSED_UNION_WITH_SERIFS bINTERSECTION_c aDOUBLE_SQUARE_INTERSECTION cUNION
    aCLOSED_UNION_WITH_SERIFS_AND_SMASH_PRODUCT aLOGICAL_AND_WITH_DOT_ABOVE bOR_d
    aDOUBLE_LOGICAL_AND cOR aTWO_INTERSECTING_LOGICAL_AND dOR aSLOPING_LARGE_b cAND
    aLOGICAL_OR_OVERLAPPING_LOGICAL_b bAND_WITH_MIDDLE_STEM bOR_d bAND_WITH_HORIZONTAL_DASH bOR_d
    bAND_WITH_DOUBLE_OVERBAR dUNDERBAR dDOUBLE_b aSMALL_VEE_WITH_b aLOGICAL_OR_WITH_DOUBLE_OVERBAR
    eUNDERBAR aZ_NOTATION_DOMAIN_ANTIRESTRICTION cRANGE_b aEQUALS_SIGN_WITH_DOT_BELOW
    aIDENTICAL_WITH_DOT_ABOVE aTRIPLE_HORIZONTAL_BAR_WITH_DOUBLE_VERTICAL_STROKE eTRIPLE_c
    aTILDE_OPERATOR_WITH_DOT_ABOVE dRISING_DOTS aSIMILAR_MINUS_SIMILAR aCONGRUENT_WITH_DOT_ABOVE
    aEQUALS_WITH_ASTERISK aALMOST_EQUAL_TO_WITH_CIRCUMFLEX_ACCENT aAPPROXIMATELY_EQUAL_OR_EQUAL_TO
    aEQUALS_SIGN_ABOVE_PLUS_SIGN aPLUS_SIGN_ABOVE_EQUALS_b aEQUALS_SIGN_ABOVE_TILDE_OPERATOR
    aDOUBLE_COLON_EQUAL aTWO_CONSECUTIVE_EQUALS_SIGNS aTHREE_d
    aEQUALS_SIGN_WITH_TWO_DOTS_ABOVE_AND_TWO_DOTS_BELOW aEQUIVALENT_WITH_FOUR_DOTS_ABOVE
    aLESS-THAN_WITH_CIRCLE_INSIDE aGREATER-e aLESS-THAN_WITH_QUESTION_MARK_ABOVE aGREATER-f
    aLESS-THAN_OR_SLANTED_EQUAL_TO aGREATER-f aLESS-THAN_OR_SLANTED_EQUAL_TO_WITH_DOT_INSIDE
    aGREATER-i aLESS-THAN_OR_SLANTED_EQUAL_TO_WITH_DOT_ABOVE aGREATER-i
    aLESS-THAN_OR_SLANTED_EQUAL_TO_WITH_DOT_ABOVE_RIGHT
    aGREATER-THAN_OR_SLANTED_EQUAL_TO_WITH_DOT_ABOVE_LEFT aLESS-THAN_OR_APPROXIMATE aGREATER-d
    aLESS-THAN_AND_SINGLE-LINE_NOT_EQUAL_TO aGREATER-h aLESS-THAN_AND_NOT_APPROXIMATE aGREATER-e
    aLESS-THAN_ABOVE_DOUBLE-LINE_EQUAL_ABOVE_GREATER-THAN
    aGREATER-THAN_ABOVE_DOUBLE-LINE_EQUAL_ABOVE_LESS-b aLESS-THAN_ABOVE_SIMILAR_OR_EQUAL aGREATER-f
    aLESS-THAN_ABOVE_SIMILAR_ABOVE_GREATER-THAN aGREATER-THAN_ABOVE_SIMILAR_ABOVE_LESS-b
    aLESS-THAN_ABOVE_GREATER-THAN_ABOVE_DOUBLE-LINE_EQUAL aGREATER-THAN_ABOVE_LESS-f
    aLESS-THAN_ABOVE_SLANTED_EQUAL_ABOVE_GREATER-THAN_ABOVE_SLANTED_b
    aGREATER-THAN_ABOVE_SLANTED_EQUAL_ABOVE_LESS-e aSLANTED_EQUAL_TO_OR_LESS-THAN eGREATER-b
    eLESS-THAN_WITH_DOT_INSIDE eGREATER-e aDOUBLE-LINE_EQUAL_TO_OR_LESS-THAN fGREATER-b
    cSLANTED_EQUAL_TO_OR_LESS-b gGREATER-b aSIMILAR_OR_LESS-b cGREATER-b
    bABOVE_LESS-THAN_ABOVE_EQUALS_SIGN cGREATER-e aDOUBLE_NESTED_LESS-THAN cGREATER-b
    cLESS-THAN_WITH_UNDERBAR aGREATER-THAN_OVERLAPPING_LESS-THAN cBESIDE_c
    aLESS-THAN_CLOSED_BY_CURVE aGREATER-e aLESS-THAN_CLOSED_BY_CURVE_ABOVE_SLANTED_EQUAL aGREATER-h
    aSMALLER_THAN aLARGER_b aSMALLER_THAN_OR_EQUAL_TO aLARGER_e aEQUALS_SIGN_WITH_BUMPY_ABOVE
    aPRECEDES_ABOVE_SINGLE-LINE_EQUALS_SIGN aSUCCEEDS_f aPRECEDES_ABOVE_SINGLE-LINE_NOT_EQUAL_TO
    aSUCCEEDS_g aPRECEDES_ABOVE_EQUALS_SIGN aSUCCEEDS_d aPRECEDES_ABOVE_NOT_EQUAL_TO aSUCCEEDS_e
    aPRECEDES_ABOVE_ALMOST_c aSUCCEEDS_e aPRECEDES_ABOVE_NOT_d aSUCCEEDS_f aDOUBLE_PRECEDES
    bSUCCEEDS aSUBSET_WITH_DOT aSUPERSET_c aSUBSET_WITH_PLUS_SIGN_BELOW aSUPERSET_e
    aSUBSET_WITH_MULTIPLICATION_c aSUPERSET_e aSUBSET_OF_OR_EQUAL_TO_WITH_DOT_ABOVE aSUPERSET_h
    aSUBSET_OF_ABOVE_EQUALS_SIGN aSUPERSET_e aSUBSET_OF_ABOVE_TILDE_OPERATOR aSUPERSET_e
    aSUBSET_OF_ABOVE_ALMOST_EQUAL_TO aSUPERSET_f aSUBSET_OF_ABOVE_NOT_c aSUPERSET_f
    aSQUARE_LEFT_OPEN_BOX_OPERATOR bRIGHT_d aCLOSED_SUBSET bSUPERSET bSUBSET_OR_EQUAL_TO bSUPERSET_d
    aSUBSET_ABOVE_SUPERSET aSUPERSET_ABOVE_SUBSET aSUBSET_c aSUPERSET_ABOVE_SUPERSET bBESIDE_SUBSET
    cAND_JOINED_BY_DASH_WITH_b aELEMENT_OF_OPENING_DOWNWARDS aPITCHFORK_WITH_TEE_TOP
    aTRANSVERSAL_INTERSECTION aFORKING aNONFORKING aSHORT_LEFT_TACK bDOWN_b bUP_b
    aPERPENDICULAR_WITH_S aVERTICAL_BAR_TRIPLE_RIGHT_TURNSTILE aDOUBLE_VERTICAL_BAR_LEFT_b
    aVERTICAL_BAR_DOUBLE_c aDOUBLE_f aLONG_DASH_FROM_LEFT_MEMBER_OF_DOUBLE_VERTICAL
    aSHORT_DOWN_TACK_WITH_OVERBAR bUP_TACK_WITH_UNDERBAR dABOVE_SHORT_DOWN_TACK aDOUBLE_c bUP_b
    bSTROKE_NOT_SIGN aREVERSED_e aDOES_NOT_DIVIDE_WITH_REVERSED_NEGATION_SLASH
    aVERTICAL_LINE_WITH_CIRCLE_ABOVE eBELOW aDOWN_TACK_d aPARALLEL_WITH_HORIZONTAL_STROKE
    cTILDE_OPERATOR aTRIPLE_VERTICAL_BAR_BINARY_RELATION dWITH_HORIZONTAL_STROKE bCOLON_OPERATOR
    bNESTED_LESS-THAN cGREATER-b aDOUBLE-LINE_SLANTED_LESS-THAN_OR_EQUAL_TO dGREATER-e
    aTRIPLE_SOLIDUS_BINARY_RELATION aLARGE_TRIPLE_VERTICAL_BAR_OPERATOR aDOUBLE_SOLIDUS_b
    aWHITE_VERTICAL_BAR aN-ARY_d aNORTH_EAST_WHITE_ARROW bWEST_c aSOUTH_EAST_c bWEST_c aLEFT_RIGHT_c
    aLEFTWARDS_BLACK_b aUPWARDS_c aDOWNWARDS_c aNORTH_EAST_c bWEST_c aSOUTH_EAST_c bWEST_c
    aLEFT_RIGHT_c aUP_DOWN_c aRIGHTWARDS_ARROW_WITH_TIP_DOWNWARDS eUPWARDS
    aLEFTWARDS_ARROW_WITH_TIP_DOWNWARDS eUPWARDS aSQUARE_WITH_TOP_HALF_BLACK cBOTTOM_c
    cUPPER_RIGHT_DIAGONAL_c cLOWER_LEFT_d aDIAMOND_WITH_LEFT_c cRIGHT_c cTOP_c cBOTTOM_c
    aDOTTED_SQUARE aBLACK_LARGE_b aWHITE_c aBLACK_VERY_SMALL_b aWHITE_d aBLACK_PENTAGON aWHITE_b
    bHEXAGON aBLACK_b aHORIZONTAL_c aBLACK_LARGE_CIRCLE bMEDIUM_DIAMOND aWHITE_c
    aBLACK_MEDIUM_LOZENGE aWHITE_c aBLACK_SMALL_DIAMOND cLOZENGE aWHITE_c aBLACK_HORIZONTAL_ELLIPSE
    aWHITE_c aBLACK_VERTICAL_b aWHITE_c aLEFT_ARROW_WITH_SMALL_CIRCLE aTHREE_LEFTWARDS_ARROWS
    aLEFT_ARROW_WITH_CIRCLED_PLUS aLONG_LEFTWARDS_SQUIGGLE_ARROW
    aLEFTWARDS_TWO-HEADED_ARROW_WITH_VERTICAL_STROKE fDOUBLE_c eFROM_BAR dTRIPLE_DASH_ARROW
    bARROW_WITH_DOTTED_STEM dTAIL_WITH_VERTICAL_STROKE fDOUBLE_c bTWO-HEADED_ARROW_WITH_TAIL
    fTAIL_WITH_VERTICAL_STROKE hDOUBLE_c bARROW_THROUGH_X aWAVE_ARROW_POINTING_DIRECTLY_LEFT
    aEQUALS_SIGN_ABOVE_LEFTWARDS_ARROW aREVERSE_TILDE_OPERATOR_d
    aLEFTWARDS_ARROW_ABOVE_REVERSE_ALMOST_EQUAL_TO aRIGHTWARDS_ARROW_THROUGH_GREATER-THAN dSUPERSET
    aLEFTWARDS_QUADRUPLE_ARROW aRIGHTWARDS_c aREVERSE_TILDE_OPERATOR_ABOVE_RIGHTWARDS_b
    aRIGHTWARDS_ARROW_ABOVE_REVERSE_ALMOST_EQUAL_TO aTILDE_OPERATOR_ABOVE_LEFTWARDS_ARROW
    aLEFTWARDS_ARROW_ABOVE_ALMOST_EQUAL_TO dREVERSE_TILDE_OPERATOR aRIGHTWARDS_f
    aDOWNWARDS_TRIANGLE-HEADED_ZIGZAG_ARROW aSHORT_SLANTED_NORTH_b bBACKSLANTED_SOUTH_b
    aWHITE_MEDIUM_STAR aBLACK_SMALL_b aWHITE_c aBLACK_RIGHT-POINTING_PENTAGON aWHITE_d
    aHEAVY_LARGE_CIRCLE bOVAL_WITH_OVAL_INSIDE bCIRCLE_WITH_CIRCLE_b bCIRCLE bCIRCLED_SALTIRE
    aSLANTED_NORTH_ARROW_WITH_HOOKED_HEAD aBACKSLANTED_SOUTH_ARROW_WITH_HOOKED_TAIL
    aSLANTED_NORTH_ARROW_WITH_HORIZONTAL_b aBACKSLANTED_SOUTH_e
    aBENT_ARROW_POINTING_DOWNWARDS_THEN_NORTH_EAST aSHORT_h aLEFTWARDS_TRIANGLE-HEADED_ARROW
    aUPWARDS_d aRIGHTWARDS_d aDOWNWARDS_d aLEFT_RIGHT_d aUP_DOWN_d aNORTH_WEST_d bEAST_d aSOUTH_e
    bWEST_d aLEFTWARDS_TRIANGLE-HEADED_DASHED_b aUPWARDS_e aRIGHTWARDS_e aDOWNWARDS_e
    aCLOCKWISE_TRIANGLE-HEADED_OPEN_CIRCLE_b aANTICLOCKWISE_f
    aLEFTWARDS_TRIANGLE-HEADED_ARROW_TO_BAR aUPWARDS_f aRIGHTWARDS_f aDOWNWARDS_f 2B76 aNORTH_WEST_f
    bEAST_f aSOUTH_g bWEST_f aLEFTWARDS_TRIANGLE-HEADED_ARROW_WITH_DOUBLE_HORIZONTAL_STROKE
    aUPWARDS_h aRIGHTWARDS_h aDOWNWARDS_h aHORIZONTAL_TAB_KEY aVERTICAL_c
    aLEFTWARDS_TRIANGLE-HEADED_ARROW_OVER_RIGHTWARDS_TRIANGLE-HEADED_ARROW
    aUPWARDS_TRIANGLE-HEADED_ARROW_LEFTWARDS_OF_DOWNWARDS_d
    aRIGHTWARDS_TRIANGLE-HEADED_ARROW_OVER_LEFTWARDS_d
    aDOWNWARDS_TRIANGLE-HEADED_ARROW_LEFTWARDS_OF_UPWARDS_d aLEFTWARDS_TRIANGLE-HEADED_PAIRED_ARROWS
    aUPWARDS_e aRIGHTWARDS_e aDOWNWARDS_e aLEFTWARDS_BLACK_CIRCLED_WHITE_ARROW aUPWARDS_e
    aRIGHTWARDS_e aDOWNWARDS_e aANTICLOCKWISE_TRIANGLE-HEADED_RIGHT_U-SHAPED_b dBOTTOM_d dLEFT_d
    dTOP_d aRETURN_LEFT bRIGHT aNEWLINE_LEFT bRIGHT aFOUR_CORNER_ARROWS_CIRCLING_ANTICLOCKWISE
    aRIGHTWARDS_BLACK_ARROW 2B97 aSYMBOL_FOR_TYPE_A_ELECTRONICS
    aTHREE-D_TOP-LIGHTED_LEFTWARDS_EQUILATERAL_ARROWHEAD cRIGHT-LIGHTED_UPWARDS_c
    cTOP-LIGHTED_RIGHTWARDS_c cLEFT-LIGHTED_DOWNWARDS_c aBLACK_LEFTWARDS_c bUPWARDS_c bRIGHTWARDS_c
    bDOWNWARDS_c aDOWNWARDS_TRIANGLE-HEADED_ARROW_WITH_LONG_TIP_LEFTWARDS hRIGHTWARDS
    aUPWARDS_TRIANGLE-HEADED_ARROW_WITH_LONG_TIP_LEFTWARDS hRIGHTWARDS
    aLEFTWARDS_TRIANGLE-HEADED_ARROW_WITH_LONG_TIP_UPWARDS aRIGHTWARDS_h
    aLEFTWARDS_TRIANGLE-HEADED_ARROW_WITH_LONG_TIP_DOWNWARDS aRIGHTWARDS_h
    aBLACK_CURVED_DOWNWARDS_AND_LEFTWARDS_ARROW eRIGHTWARDS_b cUPWARDS_AND_LEFTWARDS_b eRIGHTWARDS_b
    cLEFTWARDS_AND_UPWARDS_b cRIGHTWARDS_d cLEFTWARDS_AND_DOWNWARDS_b cRIGHTWARDS_d
    aRIBBON_ARROW_DOWN_LEFT dRIGHT cUP_LEFT dRIGHT cLEFT_UP cRIGHT_b cLEFT_DOWN cRIGHT_b
    aUPWARDS_WHITE_ARROW_FROM_BAR_WITH_HORIZONTAL_BAR aUP_ARROWHEAD_IN_A_RECTANGLE_BOX
    aOVERLAPPING_WHITE_SQUARES cAND_BLACK_b bc aBALLOT_BOX_WITH_LIGHT_X aCIRCLED_b bBOLD_b
    aBLACK_SQUARE_CENTRED bDIAMOND_b aTURNED_BLACK_PENTAGON aHORIZONTAL_BLACK_OCTAGON ac
    bMEDIUM_UP-POINTING_TRIANGLE_CENTRED cDOWN-d cLEFT-d cRIGHT-d aNEPTUNE_FORM_TWO
    aTOP_HALF_BLACK_CIRCLE aBOTTOM_d aLIGHT_FOUR_POINTED_BLACK_CUSP aROTATED_f aWHITE_FOUR_POINTED_b
    aROTATED_e aSQUARE_POSITION_INDICATOR aUNCERTAINTY_SIGN aGROUP_MARK aPLUTO_FORM_TWO cTHREE cFOUR
    cFIVE aTRANSPLUTO aPROSERPINA aASTRAEA aHYGIEA aPHOLUS aNESSUS aWHITE_MOON_SELENA
    aBLACK_DIAMOND_ON_CROSS aTRUE_LIGHT_MOON_ARTA aCUPIDO aHADES aZEUS aKRONOS aAPOLLON aADMETOS
    aVULCANUS aPOSEIDON aLEFT_HALF_BLACK_STAR aRIGHT_d aSTAR_WITH_LEFT_HALF_BLACK cRIGHT_c
    aLEFTWARDS_TWO-HEADED_ARROW_WITH_TRIANGLE_ARROWHEADS aUPWARDS_g aRIGHTWARDS_g aDOWNWARDS_g
    aERIS_FORM_ONE cTWO aSEDNA aRUSSIAN_ASTROLOGICAL_SYMBOL_VIGINTILE dNOVILE dQUINTILE dBINOVILE
    dSENTAGON dTREDECILE aEQUALS_SIGN_WITH_INFINITY_BELOW aUNITED_SYMBOL aSEPARATED_b aDOUBLED_b
    aPASSED_b aREVERSED_RIGHT_ANGLE aHELLSCHREIBER_PAUSE_SYMBOL aGLAGOLITIC_CAPITAL_LETTER_AZU dBUKY
    dVEDE dGLAGOLI dDOBRO dYESTU dZHIVETE dDZELO dZEMLJA dIZHE dINITIAL_b dI dDJERVI dKAKO dLJUDIJE
    dMYSLITE dNASHI dONU dPOKOJI dRITSI dSLOVO dTVRIDO dUKU dFRITU dHERU dOTU dPE dSHTA dTSI dCHRIVI
    dSHA dYERU dYERI dYATI dSPIDERY_HA dYU dSMALL_YUS eYUS_WITH_TAIL dYO dIOTATED_SMALL_YUS dBIG_b
    dIOTATED_c dFITA dIZHITSA dSHTAPIC dTROKUTASTI_A dLATINATE_MYSLITE dCAUDATE_CHRIVI
    bSMALL_LETTER_AZU dBUKY dVEDE dGLAGOLI dDOBRO dYESTU dZHIVETE dDZELO dZEMLJA dIZHE dINITIAL_b dI
    dDJERVI dKAKO dLJUDIJE dMYSLITE dNASHI dONU dPOKOJI dRITSI dSLOVO dTVRIDO dUKU dFRITU dHERU dOTU
    dPE dSHTA dTSI dCHRIVI dSHA dYERU dYERI dYATI dSPIDERY_HA dYU dSMALL_YUS eYUS_WITH_TAIL dYO
    dIOTATED_SMALL_YUS dBIG_b dIOTATED_c dFITA dIZHITSA dSHTAPIC dTROKUTASTI_A dLATINATE_MYSLITE
    dCAUDATE_CHRIVI aLATIN_CAPITAL_LETTER_L_WITH_DOUBLE_BAR bSMALL_f
    bCAPITAL_LETTER_L_WITH_MIDDLE_TILDE dP_WITH_STROKE dR_WITH_TAIL bSMALL_LETTER_A_WITH_STROKE
    dT_WITH_DIAGONAL_b bCAPITAL_LETTER_H_WITH_DESCENDER bSMALL_e bCAPITAL_LETTER_K_c bSMALL_e
    bCAPITAL_LETTER_Z_c bSMALL_e bCAPITAL_LETTER_ALPHA dM_WITH_HOOK dTURNED_A eALPHA
    bSMALL_LETTER_V_WITH_RIGHT_HOOK bCAPITAL_LETTER_W_WITH_b bSMALL_e dV_WITH_CURL
    bCAPITAL_LETTER_HALF_H bSMALL_d dTAILLESS_PHI dE_WITH_NOTCH dTURNED_R_WITH_TAIL
    dO_WITH_LOW_RING_INSIDE bLETTER_SMALL_CAPITAL_TURNED_E bSUBSCRIPT_SMALL_LETTER_J
    aMODIFIER_LETTER_CAPITAL_V aLATIN_CAPITAL_LETTER_S_WITH_SWASH_TAIL dZ_d
    aCOPTIC_CAPITAL_LETTER_ALFA bSMALL_c bCAPITAL_LETTER_VIDA bSMALL_c bCAPITAL_LETTER_GAMMA
    bSMALL_c bCAPITAL_LETTER_DALDA bSMALL_c bCAPITAL_LETTER_EIE bSMALL_c bCAPITAL_LETTER_SOU
    bSMALL_c bCAPITAL_LETTER_ZATA bSMALL_c bCAPITAL_LETTER_HATE bSMALL_c bCAPITAL_LETTER_THETHE
    bSMALL_c bCAPITAL_LETTER_IAUDA bSMALL_c bCAPITAL_LETTER_KAPA bSMALL_c bCAPITAL_LETTER_LAULA
    bSMALL_c bCAPITAL_LETTER_MI bSMALL_c bCAPITAL_LETTER_NI bSMALL_c bCAPITAL_LETTER_KSI bSMALL_c
    bCAPITAL_LETTER_O bSMALL_c bCAPITAL_LETTER_PI bSMALL_c bCAPITAL_LETTER_RO bSMALL_c
    bCAPITAL_LETTER_SIMA bSMALL_c bCAPITAL_LETTER_TAU bSMALL_c bCAPITAL_LETTER_UA bSMALL_c
    bCAPITAL_LETTER_FI bSMALL_c bCAPITAL_LETTER_KHI bSMALL_c bCAPITAL_LETTER_PSI bSMALL_c
    bCAPITAL_LETTER_OOU bSMALL_c bCAPITAL_LETTER_DIALECT-P_ALEF bSMALL_e
    bCAPITAL_LETTER_OLD_COPTIC_AIN bSMALL_e bCAPITAL_LETTER_CRYPTOGRAMMIC_EIE bSMALL_d
    bCAPITAL_LETTER_DIALECT-P_KAPA bSMALL_e bCAPITAL_LETTER_DIALECT-P_NI bSMALL_e
    bCAPITAL_LETTER_CRYPTOGRAMMIC_b bSMALL_d bCAPITAL_LETTER_OLD_COPTIC_OOU bSMALL_e
    bCAPITAL_LETTER_SAMPI bSMALL_c bCAPITAL_LETTER_CROSSED_SHEI bSMALL_d
    bCAPITAL_LETTER_OLD_COPTIC_b bSMALL_e bCAPITAL_LETTER_OLD_COPTIC_ESH bSMALL_e
    bCAPITAL_LETTER_AKHMIMIC_KHEI bSMALL_d bCAPITAL_LETTER_DIALECT-P_HORI bSMALL_e
    bCAPITAL_LETTER_OLD_COPTIC_b bSMALL_e bCAPITAL_LETTER_OLD_COPTIC_HA bSMALL_e
    bCAPITAL_LETTER_L-SHAPED_b bSMALL_e bCAPITAL_LETTER_OLD_COPTIC_HEI bSMALL_e
    bCAPITAL_LETTER_OLD_COPTIC_HAT bSMALL_e bCAPITAL_LETTER_OLD_COPTIC_GANGIA bSMALL_e
    bCAPITAL_LETTER_OLD_COPTIC_DJA bSMALL_e bCAPITAL_LETTER_OLD_COPTIC_SHIMA bSMALL_e
    bCAPITAL_LETTER_OLD_NUBIAN_b bSMALL_e bCAPITAL_LETTER_OLD_NUBIAN_NGI bSMALL_e
    bCAPITAL_LETTER_OLD_NUBIAN_NYI bSMALL_e bCAPITAL_LETTER_OLD_NUBIAN_WAU bSMALL_e bSYMBOL_KAI
    cMI_RO cPI_b cSTAUROS cTAU_RO cKHI_b cSHIMA_SIMA bCAPITAL_LETTER_CRYPTOGRAMMIC_SHEI bSMALL_d
    bCAPITAL_LETTER_CRYPTOGRAMMIC_GANGIA bSMALL_d bCOMBINING_NI_ABOVE cSPIRITUS_ASPER dLENIS
    bCAPITAL_LETTER_BOHAIRIC_KHEI bSMALL_d 2CF9 bOLD_NUBIAN_FULL_STOP dDIRECT_QUESTION_MARK
    dINDIRECT_c dVERSE_DIVIDER bFRACTION_ONE_HALF bFULL_STOP bMORPHOLOGICAL_DIVIDER
    aGEORGIAN_SMALL_LETTER_AN dBAN dGAN dDON dEN dVIN dZEN dTAN dIN dKAN dLAS dMAN dNAR dON dPAR
    dZHAR dRAE dSAN dTAR dUN dPHAR dKHAR dGHAN dQAR dSHIN dCHIN dCAN dJIL dCIL dCHAR dXAN dJHAN dHAE
    dHE dHIE dWE dHAR dHOE 2D27 dYN 2D2D dAEN 2D30 aTIFINAGH_LETTER_YA cYAB cYABH cYAG cYAGHH
    cBERBER_ACADEMY_YAJ cb cYAD cYADH cYADD cYADDH cYEY cYAF cYAK cTUAREG_b cYAKHH cYAH
    cBERBER_ACADEMY_b cTUAREG_b cYAHH cYAA cYAKH cTUAREG_b cYAQ cTUAREG_b cYI cYAZH cAHAGGAR_b
    cTUAREG_b cYAL cYAM cYAN cTUAREG_YAGN dYANG cYAP cYU cYAR cYARR cYAGH cTUAREG_b cAYER_b cYAS
    cYASS cYASH cYAT cYATH cYACH cYATT cYAV cYAW cYAY cYAZ cTAWELLEMET_b cYAZZ cYE cYO 2D6F
    bMODIFIER_LETTER_LABIALIZATION_MARK bSEPARATOR_b 2D7F bCONSONANT_JOINER aETHIOPIC_SYLLABLE_LOA
    cMOA cROA cSOA cSHOA cBOA cTOA cCOA cNOA cNYOA cGLOTTAL_OA cZOA cDOA cDDOA cJOA cTHOA cCHOA
    cPHOA cPOA cGGWA cGGWI cGGWEE cGGWE 2DA0 cSSA cSSU cSSI cSSAA cSSEE cSSE cSSO 2DA8 cCCA cCCU
    cCCI cCCAA cCCEE cCCE cCCO 2DB0 cZZA cZZU cZZI cZZAA cZZEE cZZE cZZO 2DB8 cCCHA cCCHU cCCHI
    cCCHAA cCCHEE cCCHE cCCHO 2DC0 cQYA cQYU cQYI cQYAA cQYEE cQYE cQYO 2DC8 cKYA cKYU cKYI cKYAA
    cKYEE cKYE cKYO 2DD0 cXYA cXYU cXYI cXYAA cXYEE cXYE cXYO 2DD8 cGYA cGYU cGYI cGYAA cGYEE cGYE
    cGYO 2DE0 aCOMBINING_CYRILLIC_LETTER_BE dVE dGHE dDE dZHE dZE dKA dEL dEM dEN dO dPE dER dES dTE
    dHA dTSE dCHE dSHA dSHCHA dFITA dES-TE dA dIE dDJERV dMONOGRAPH_UK dYAT dYU dIOTIFIED_A
    dLITTLE_YUS dBIG_b dIOTIFIED_c aRIGHT_ANGLE_SUBSTITUTION_MARKER cDOTTED_c
    aLEFT_SUBSTITUTION_BRACKET aRIGHT_c aLEFT_DOTTED_c aRIGHT_d aRAISED_INTERPOLATION_MARKER
    bDOTTED_c aDOTTED_TRANSPOSITION_b aLEFT_TRANSPOSITION_BRACKET aRIGHT_c aRAISED_SQUARE
    aLEFT_RAISED_OMISSION_BRACKET aRIGHT_d aEDITORIAL_CORONIS aPARAGRAPHOS aFORKED_b aREVERSED_c
    aHYPODIASTOLE aDOTTED_OBELOS aDOWNWARDS_ANCORA aUPWARDS_b aDOTTED_RIGHT-POINTING_ANGLE
    aDOUBLE_OBLIQUE_HYPHEN aINVERTED_INTERROBANG aPALM_BRANCH aHYPHEN_WITH_DIAERESIS
    aTILDE_WITH_RING_ABOVE aLEFT_LOW_PARAPHRASE_BRACKET aRIGHT_d aTILDE_WITH_DOT_ABOVE dBELOW
    aLEFT_VERTICAL_BAR_WITH_QUILL aRIGHT_e aTOP_LEFT_HALF_BRACKET bRIGHT_c aBOTTOM_LEFT_c bRIGHT_c
    aLEFT_SIDEWAYS_U_b aRIGHT_d aLEFT_DOUBLE_PARENTHESIS aRIGHT_c aTWO_DOTS_OVER_ONE_DOT_PUNCTUATION
    aONE_DOT_OVER_TWO_DOTS_b aSQUARED_FOUR_DOT_b aFIVE_DOT_MARK aREVERSED_QUESTION_b aVERTICAL_TILDE
    aRING_POINT aWORD_SEPARATOR_MIDDLE_DOT aTURNED_COMMA aRAISED_DOT bCOMMA aTURNED_SEMICOLON
    aDAGGER_WITH_LEFT_GUARD cRIGHT_b aTURNED_DAGGER aTOP_HALF_SECTION_SIGN aTWO-EM_DASH aTHREE-c
    aSTENOGRAPHIC_FULL_STOP aVERTICAL_SIX_DOTS aWIGGLY_VERTICAL_LINE aCAPITULUM aDOUBLE_HYPHEN
    aREVERSED_COMMA aDOUBLE_LOW-REVERSED-9_QUOTATION_MARK aDASH_WITH_LEFT_UPTURN
    aDOUBLE_SUSPENSION_MARK aINVERTED_LOW_KAVYKA cKAVYKA_WITH_KAVYKA_ABOVE aLOW_KAVYKA
    bKAVYKA_WITH_DOT aDOUBLE_STACKED_COMMA aDOTTED_SOLIDUS aTRIPLE_DAGGER aMEDIEVAL_COMMA
    aPARAGRAPHUS_MARK aPUNCTUS_ELEVATUS_b aCORNISH_VERSE_DIVIDER aCROSS_PATTY_WITH_RIGHT_CROSSBAR
    dLEFT_b aTIRONIAN_SIGN_CAPITAL_ET aMEDIEVAL_EXCLAMATION_MARK bQUESTION_b
    aLEFT_SQUARE_BRACKET_WITH_STROKE aRIGHT_e aLEFT_SQUARE_BRACKET_WITH_DOUBLE_b aRIGHT_f
    aTOP_HALF_LEFT_PARENTHESIS cRIGHT_b aBOTTOM_HALF_LEFT_b cRIGHT_b aOBLIQUE_HYPHEN 2E80
    aCJK_RADICAL_REPEAT cCLIFF cSECOND_ONE dTWO dTHREE cPERSON cBOX cTABLE cKNIFE_ONE dTWO
    cDIVINATION cSEAL cSMALL_ONE dTWO cLAME_ONE dTWO dTHREE dFOUR cSNAKE cTHREAD cSNOUT_ONE dTWO
    cHEART_ONE dTWO cHAND cRAP 2E9B cCHOKE cSUN cMOON cDEATH cMOTHER cCIVILIAN cWATER_ONE dTWO cFIRE
    cPAW_ONE dTWO cSIMPLIFIED_HALF_TREE_TRUNK cCOW cDOG cJADE cBOLT_OF_CLOTH cEYE cSPIRIT_ONE dTWO
    cBAMBOO cSILK cC-SIMPLIFIED_b cNET_ONE dTWO dTHREE dFOUR cMESH cSHEEP cRAM cEWE cOLD cBRUSH_ONE
    dTWO cMEAT cMORTAR cGRASS_ONE dTWO dTHREE cTIGER cCLOTHES cWEST_ONE dTWO cC-SIMPLIFIED_SEE
    cSIMPLIFIED_HORN cb cC-SIMPLIFIED_SPEECH eSHELL cFOOT cC-SIMPLIFIED_CART cSIMPLIFIED_WALK
    cWALK_ONE dTWO cCITY cC-SIMPLIFIED_GOLD cLONG_ONE dTWO cC-SIMPLIFIED_LONG eGATE cMOUND_ONE dTWO
    cRAIN cBLUE cC-SIMPLIFIED_TANNED_LEATHER eLEAF eWIND eFLY cEAT_ONE dTWO dTHREE cC-SIMPLIFIED_EAT
    cHEAD cC-SIMPLIFIED_HORSE cBONE cGHOST cC-SIMPLIFIED_FISH eBIRD eSALT cSIMPLIFIED_WHEAT dYELLOW
    cC-SIMPLIFIED_FROG cJ-SIMPLIFIED_EVEN cC-c cJ-SIMPLIFIED_TOOTH cC-c cJ-SIMPLIFIED_DRAGON cC-c
    cTURTLE cJ-SIMPLIFIED_b cC-c 2F00 aKANGXI_RADICAL_ONE cLINE cDOT cSLASH cSECOND cHOOK cTWO cLID
    cMAN cLEGS cENTER cEIGHT cDOWN_BOX cCOVER cICE cTABLE cOPEN_BOX cKNIFE cPOWER cWRAP cSPOON
    cRIGHT_OPEN_BOX cHIDING_ENCLOSURE cTEN cDIVINATION cSEAL cCLIFF cPRIVATE cAGAIN cMOUTH
    cENCLOSURE cEARTH cSCHOLAR cGO cGO_SLOWLY cEVENING cBIG cWOMAN cCHILD cROOF cINCH cSMALL cLAME
    cCORPSE cSPROUT cMOUNTAIN cRIVER cWORK cONESELF cTURBAN cDRY cSHORT_THREAD cDOTTED_CLIFF
    cLONG_STRIDE cTWO_HANDS cSHOOT cBOW cSNOUT cBRISTLE cSTEP cHEART cHALBERD cDOOR cHAND cBRANCH
    cRAP cSCRIPT cDIPPER cAXE cSQUARE cNOT cSUN cSAY cMOON cTREE cLACK cSTOP cDEATH cWEAPON cDO_NOT
    cCOMPARE cFUR cCLAN cSTEAM cWATER cFIRE cCLAW cFATHER cDOUBLE_X cHALF_TREE_TRUNK cSLICE cFANG
    cCOW cDOG cPROFOUND cJADE cMELON cTILE cSWEET cLIFE cUSE cFIELD cBOLT_OF_CLOTH cSICKNESS
    cDOTTED_TENT cWHITE cSKIN cDISH cEYE cSPEAR cARROW cSTONE cSPIRIT cTRACK cGRAIN cCAVE cSTAND
    cBAMBOO cRICE cSILK cJAR cNET cSHEEP cFEATHER cOLD cAND cPLOW cEAR cBRUSH cMEAT cMINISTER cSELF
    cARRIVE cMORTAR cTONGUE cOPPOSE cBOAT cSTOPPING cCOLOR cGRASS cTIGER cINSECT cBLOOD
    cWALK_ENCLOSURE cCLOTHES cWEST cSEE cHORN cSPEECH cVALLEY cBEAN cPIG cBADGER cSHELL cRED cRUN
    cFOOT cBODY cCART cBITTER cMORNING cWALK cCITY cWINE cDISTINGUISH cVILLAGE cGOLD cLONG cGATE
    cMOUND cSLAVE cSHORT_TAILED_BIRD cRAIN cBLUE cWRONG cFACE cLEATHER cTANNED_b cLEEK cSOUND cLEAF
    cWIND cFLY cEAT cHEAD cFRAGRANT cHORSE cBONE cTALL cHAIR cFIGHT cSACRIFICIAL_WINE cCAULDRON
    cGHOST cFISH cBIRD cSALT cDEER cWHEAT cHEMP cYELLOW cMILLET cBLACK cEMBROIDERY cFROG cTRIPOD
    cDRUM cRAT cNOSE cEVEN cTOOTH cDRAGON cTURTLE cFLUTE 2FF0
    aIDEOGRAPHIC_DESCRIPTION_CHARACTER_LEFT_TO_RIGHT dABOVE_TO_BELOW dLEFT_TO_MIDDLE_AND_RIGHT
    dABOVE_TO_MIDDLE_AND_BELOW dFULL_SURROUND dSURROUND_FROM_ABOVE fBELOW fLEFT fUPPER_b gRIGHT
    fLOWER_LEFT dOVERLAID"

end SourceConventions.Text.CharName
