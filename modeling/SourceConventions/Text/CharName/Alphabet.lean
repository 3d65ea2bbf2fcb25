/-!
# Names of characters: letters, digits and signs of living scripts
-/

namespace SourceConventions.Text.CharName

/-- Names of characters from U+0020 to U+1FFE. -/
def alphabets : String :=
  "20 aSPACE aEXCLAMATION_MARK aQUOTATION_b aNUMBER_SIGN aDOLLAR_b aPERCENT_b aAMPERSAND aAPOSTROPHE
    aLEFT_PARENTHESIS aRIGHT_b aASTERISK aPLUS_SIGN aCOMMA aHYPHEN-MINUS aFULL_STOP aSOLIDUS
    aDIGIT_ZERO bONE bTWO bTHREE bFOUR bFIVE bSIX bSEVEN bEIGHT bNINE aCOLON aSEMICOLON
    aLESS-THAN_SIGN aEQUALS_b aGREATER-THAN_b aQUESTION_MARK aCOMMERCIAL_AT aLATIN_CAPITAL_LETTER_A
    dB dC dD dE dF dG dH dI dJ dK dL dM dN dO dP dQ dR dS dT dU dV dW dX dY dZ aLEFT_SQUARE_BRACKET
    aREVERSE_SOLIDUS aRIGHT_SQUARE_BRACKET aCIRCUMFLEX_ACCENT aLOW_LINE aGRAVE_ACCENT
    aLATIN_SMALL_LETTER_A dB dC dD dE dF dG dH dI dJ dK dL dM dN dO dP dQ dR dS dT dU dV dW dX dY dZ
    aLEFT_CURLY_BRACKET aVERTICAL_LINE aRIGHT_CURLY_BRACKET aTILDE A0 aNO-BREAK_SPACE
    aINVERTED_EXCLAMATION_MARK aCENT_SIGN aPOUND_b aCURRENCY_b aYEN_b aBROKEN_BAR aSECTION_SIGN
    aDIAERESIS aCOPYRIGHT_SIGN aFEMININE_ORDINAL_INDICATOR
    aLEFT-POINTING_DOUBLE_ANGLE_QUOTATION_MARK aNOT_SIGN aSOFT_HYPHEN aREGISTERED_SIGN aMACRON
    aDEGREE_SIGN aPLUS-MINUS_b aSUPERSCRIPT_TWO bTHREE aACUTE_ACCENT aMICRO_SIGN aPILCROW_b
    aMIDDLE_DOT aCEDILLA aSUPERSCRIPT_ONE aMASCULINE_ORDINAL_INDICATOR
    aRIGHT-POINTING_DOUBLE_ANGLE_QUOTATION_MARK aVULGAR_FRACTION_ONE_QUARTER dHALF cTHREE_QUARTERS
    aINVERTED_QUESTION_MARK aLATIN_CAPITAL_LETTER_A_WITH_GRAVE fACUTE fCIRCUMFLEX fTILDE fDIAERESIS
    fRING_ABOVE dAE dC_WITH_CEDILLA dE_WITH_GRAVE fACUTE fCIRCUMFLEX fDIAERESIS dI_WITH_GRAVE fACUTE
    fCIRCUMFLEX fDIAERESIS dETH dN_WITH_TILDE dO_WITH_GRAVE fACUTE fCIRCUMFLEX fTILDE fDIAERESIS
    aMULTIPLICATION_SIGN aLATIN_CAPITAL_LETTER_O_WITH_STROKE dU_WITH_GRAVE fACUTE fCIRCUMFLEX
    fDIAERESIS dY_WITH_ACUTE dTHORN bSMALL_LETTER_SHARP_S dA_WITH_GRAVE fACUTE fCIRCUMFLEX fTILDE
    fDIAERESIS fRING_ABOVE dAE dC_WITH_CEDILLA dE_WITH_GRAVE fACUTE fCIRCUMFLEX fDIAERESIS
    dI_WITH_GRAVE fACUTE fCIRCUMFLEX fDIAERESIS dETH dN_WITH_TILDE dO_WITH_GRAVE fACUTE fCIRCUMFLEX
    fTILDE fDIAERESIS aDIVISION_SIGN aLATIN_SMALL_LETTER_O_WITH_STROKE dU_WITH_GRAVE fACUTE
    fCIRCUMFLEX fDIAERESIS dY_WITH_ACUTE dTHORN dY_WITH_DIAERESIS bCAPITAL_LETTER_A_WITH_MACRON
    bSMALL_e bCAPITAL_LETTER_A_WITH_BREVE bSMALL_e bCAPITAL_LETTER_A_WITH_OGONEK bSMALL_e
    bCAPITAL_LETTER_C_WITH_ACUTE bSMALL_e bCAPITAL_LETTER_C_WITH_CIRCUMFLEX bSMALL_e
    bCAPITAL_LETTER_C_WITH_DOT_ABOVE bSMALL_f bCAPITAL_LETTER_C_WITH_CARON bSMALL_e
    bCAPITAL_LETTER_D_c bSMALL_e bCAPITAL_LETTER_D_WITH_STROKE bSMALL_e
    bCAPITAL_LETTER_E_WITH_MACRON bSMALL_e bCAPITAL_LETTER_E_WITH_BREVE bSMALL_e
    bCAPITAL_LETTER_E_WITH_DOT_ABOVE bSMALL_f bCAPITAL_LETTER_E_WITH_OGONEK bSMALL_e
    bCAPITAL_LETTER_E_WITH_CARON bSMALL_e bCAPITAL_LETTER_G_WITH_CIRCUMFLEX bSMALL_e
    bCAPITAL_LETTER_G_WITH_BREVE bSMALL_e bCAPITAL_LETTER_G_WITH_DOT_ABOVE bSMALL_f
    bCAPITAL_LETTER_G_WITH_CEDILLA bSMALL_e bCAPITAL_LETTER_H_WITH_CIRCUMFLEX bSMALL_e
    bCAPITAL_LETTER_H_WITH_STROKE bSMALL_e bCAPITAL_LETTER_I_WITH_TILDE bSMALL_e
    bCAPITAL_LETTER_I_WITH_MACRON bSMALL_e bCAPITAL_LETTER_I_WITH_BREVE bSMALL_e
    bCAPITAL_LETTER_I_WITH_OGONEK bSMALL_e bCAPITAL_LETTER_I_WITH_DOT_ABOVE bSMALL_LETTER_DOTLESS_I
    bCAPITAL_LIGATURE_IJ bSMALL_c bCAPITAL_LETTER_J_WITH_CIRCUMFLEX bSMALL_e
    bCAPITAL_LETTER_K_WITH_CEDILLA bSMALL_e dKRA bCAPITAL_LETTER_L_WITH_ACUTE bSMALL_e
    bCAPITAL_LETTER_L_WITH_CEDILLA bSMALL_e bCAPITAL_LETTER_L_WITH_CARON bSMALL_e
    bCAPITAL_LETTER_L_WITH_MIDDLE_DOT bSMALL_f bCAPITAL_LETTER_L_WITH_STROKE bSMALL_e
    bCAPITAL_LETTER_N_WITH_ACUTE bSMALL_e bCAPITAL_LETTER_N_WITH_CEDILLA bSMALL_e
    bCAPITAL_LETTER_N_WITH_CARON bSMALL_e ePRECEDED_BY_APOSTROPHE bCAPITAL_LETTER_ENG bSMALL_c
    bCAPITAL_LETTER_O_WITH_MACRON bSMALL_e bCAPITAL_LETTER_O_WITH_BREVE bSMALL_e
    bCAPITAL_LETTER_O_WITH_DOUBLE_ACUTE bSMALL_f bCAPITAL_LIGATURE_OE bSMALL_c
    bCAPITAL_LETTER_R_WITH_ACUTE bSMALL_e bCAPITAL_LETTER_R_WITH_CEDILLA bSMALL_e
    bCAPITAL_LETTER_R_WITH_CARON bSMALL_e bCAPITAL_LETTER_S_WITH_ACUTE bSMALL_e
    bCAPITAL_LETTER_S_WITH_CIRCUMFLEX bSMALL_e bCAPITAL_LETTER_S_WITH_CEDILLA bSMALL_e
    bCAPITAL_LETTER_S_WITH_CARON bSMALL_e bCAPITAL_LETTER_T_WITH_CEDILLA bSMALL_e
    bCAPITAL_LETTER_T_WITH_CARON bSMALL_e bCAPITAL_LETTER_T_WITH_STROKE bSMALL_e
    bCAPITAL_LETTER_U_WITH_TILDE bSMALL_e bCAPITAL_LETTER_U_WITH_MACRON bSMALL_e
    bCAPITAL_LETTER_U_WITH_BREVE bSMALL_e bCAPITAL_LETTER_U_WITH_RING_ABOVE bSMALL_f
    bCAPITAL_LETTER_U_WITH_DOUBLE_ACUTE bSMALL_f bCAPITAL_LETTER_U_WITH_OGONEK bSMALL_e
    bCAPITAL_LETTER_W_WITH_CIRCUMFLEX bSMALL_e bCAPITAL_LETTER_Y_c bSMALL_e
    bCAPITAL_LETTER_Y_WITH_DIAERESIS dZ_WITH_ACUTE bSMALL_e bCAPITAL_LETTER_Z_WITH_DOT_ABOVE
    bSMALL_f bCAPITAL_LETTER_Z_WITH_CARON bSMALL_e dLONG_S dB_WITH_STROKE
    bCAPITAL_LETTER_B_WITH_HOOK fTOPBAR bSMALL_e bCAPITAL_LETTER_TONE_SIX bSMALL_d
    bCAPITAL_LETTER_OPEN_O dC_WITH_HOOK bSMALL_e bCAPITAL_LETTER_AFRICAN_D dD_WITH_HOOK fTOPBAR
    bSMALL_e dTURNED_DELTA bCAPITAL_LETTER_REVERSED_E dSCHWA dOPEN_E dF_WITH_HOOK bSMALL_e
    bCAPITAL_LETTER_G_c dGAMMA bSMALL_LETTER_HV bCAPITAL_LETTER_IOTA dI_WITH_STROKE dK_WITH_HOOK
    bSMALL_e dL_WITH_BAR dLAMBDA_WITH_STROKE bCAPITAL_LETTER_TURNED_M dN_WITH_LEFT_HOOK
    bSMALL_LETTER_N_WITH_LONG_RIGHT_LEG bCAPITAL_LETTER_O_WITH_MIDDLE_TILDE fHORN bSMALL_e
    bCAPITAL_LETTER_OI bSMALL_c bCAPITAL_LETTER_P_WITH_HOOK bSMALL_e bLETTER_YR
    bCAPITAL_LETTER_TONE_TWO bSMALL_d bCAPITAL_LETTER_ESH bLETTER_REVERSED_ESH_LOOP
    bSMALL_LETTER_T_WITH_PALATAL_HOOK bCAPITAL_LETTER_T_WITH_b bSMALL_e
    bCAPITAL_LETTER_T_WITH_RETROFLEX_b dU_WITH_HORN bSMALL_e bCAPITAL_LETTER_UPSILON dV_WITH_HOOK
    dY_c bSMALL_e bCAPITAL_LETTER_Z_WITH_STROKE bSMALL_e bCAPITAL_LETTER_EZH dEZH_REVERSED bSMALL_d
    eWITH_TAIL bLETTER_TWO_WITH_STROKE bCAPITAL_LETTER_TONE_FIVE bSMALL_d
    bLETTER_INVERTED_GLOTTAL_STOP_WITH_STROKE cWYNN cDENTAL_CLICK cLATERAL_b cALVEOLAR_b
    cRETROFLEX_b bCAPITAL_LETTER_DZ_WITH_CARON dD_WITH_SMALL_LETTER_Z_c bSMALL_LETTER_DZ_c
    bCAPITAL_LETTER_LJ dL_WITH_SMALL_LETTER_J bSMALL_LETTER_LJ bCAPITAL_LETTER_NJ
    dN_WITH_SMALL_LETTER_J bSMALL_LETTER_NJ bCAPITAL_LETTER_A_WITH_CARON bSMALL_e
    bCAPITAL_LETTER_I_c bSMALL_e bCAPITAL_LETTER_O_c bSMALL_e bCAPITAL_LETTER_U_c bSMALL_e
    bCAPITAL_LETTER_U_WITH_DIAERESIS_AND_MACRON bSMALL_g bCAPITAL_LETTER_U_WITH_DIAERESIS_AND_ACUTE
    bSMALL_g bCAPITAL_LETTER_U_WITH_DIAERESIS_AND_CARON bSMALL_g
    bCAPITAL_LETTER_U_WITH_DIAERESIS_AND_GRAVE bSMALL_g dTURNED_E
    bCAPITAL_LETTER_A_WITH_DIAERESIS_AND_MACRON bSMALL_g bCAPITAL_LETTER_A_WITH_DOT_ABOVE_c bSMALL_h
    bCAPITAL_LETTER_AE_WITH_b bSMALL_e bCAPITAL_LETTER_G_WITH_STROKE bSMALL_e
    bCAPITAL_LETTER_G_WITH_CARON bSMALL_e bCAPITAL_LETTER_K_c bSMALL_e bCAPITAL_LETTER_O_WITH_OGONEK
    bSMALL_e bCAPITAL_LETTER_O_WITH_OGONEK_AND_MACRON bSMALL_g bCAPITAL_LETTER_EZH_WITH_CARON
    bSMALL_e dJ_c bCAPITAL_LETTER_DZ dD_WITH_SMALL_LETTER_Z bSMALL_LETTER_DZ
    bCAPITAL_LETTER_G_WITH_ACUTE bSMALL_e bCAPITAL_LETTER_HWAIR dWYNN dN_WITH_GRAVE bSMALL_e
    bCAPITAL_LETTER_A_WITH_RING_ABOVE_AND_ACUTE bSMALL_h bCAPITAL_LETTER_AE_WITH_b bSMALL_e
    bCAPITAL_LETTER_O_WITH_STROKE_AND_b bSMALL_g bCAPITAL_LETTER_A_WITH_DOUBLE_GRAVE bSMALL_f
    bCAPITAL_LETTER_A_WITH_INVERTED_BREVE bSMALL_f bCAPITAL_LETTER_E_WITH_DOUBLE_GRAVE bSMALL_f
    bCAPITAL_LETTER_E_WITH_INVERTED_BREVE bSMALL_f bCAPITAL_LETTER_I_WITH_DOUBLE_GRAVE bSMALL_f
    bCAPITAL_LETTER_I_WITH_INVERTED_BREVE bSMALL_f bCAPITAL_LETTER_O_WITH_DOUBLE_GRAVE bSMALL_f
    bCAPITAL_LETTER_O_WITH_INVERTED_BREVE bSMALL_f bCAPITAL_LETTER_R_WITH_DOUBLE_GRAVE bSMALL_f
    bCAPITAL_LETTER_R_WITH_INVERTED_BREVE bSMALL_f bCAPITAL_LETTER_U_WITH_DOUBLE_GRAVE bSMALL_f
    bCAPITAL_LETTER_U_WITH_INVERTED_BREVE bSMALL_f bCAPITAL_LETTER_S_WITH_COMMA_BELOW bSMALL_f
    bCAPITAL_LETTER_T_d bSMALL_f bCAPITAL_LETTER_YOGH bSMALL_c bCAPITAL_LETTER_H_WITH_CARON bSMALL_e
    bCAPITAL_LETTER_N_WITH_LONG_RIGHT_LEG bSMALL_LETTER_D_WITH_CURL bCAPITAL_LETTER_OU bSMALL_c
    bCAPITAL_LETTER_Z_WITH_HOOK bSMALL_e bCAPITAL_LETTER_A_WITH_DOT_ABOVE bSMALL_f
    bCAPITAL_LETTER_E_WITH_CEDILLA bSMALL_e bCAPITAL_LETTER_O_WITH_DIAERESIS_AND_MACRON bSMALL_g
    bCAPITAL_LETTER_O_WITH_TILDE_c bSMALL_g bCAPITAL_LETTER_O_WITH_DOT_ABOVE bSMALL_f
    bCAPITAL_LETTER_O_WITH_DOT_ABOVE_AND_MACRON bSMALL_h bCAPITAL_LETTER_Y_WITH_b bSMALL_e
    dL_WITH_CURL dN_c dT_c dDOTLESS_J dDB_DIGRAPH dQP_b bCAPITAL_LETTER_A_WITH_STROKE dC_c bSMALL_e
    bCAPITAL_LETTER_L_WITH_BAR dT_WITH_DIAGONAL_STROKE bSMALL_LETTER_S_WITH_SWASH_TAIL dZ_d
    bCAPITAL_LETTER_GLOTTAL_STOP bSMALL_d bCAPITAL_LETTER_B_WITH_STROKE dU_BAR dTURNED_V
    dE_WITH_STROKE bSMALL_e bCAPITAL_LETTER_J_c bSMALL_e bCAPITAL_LETTER_SMALL_Q_WITH_HOOK_TAIL
    bSMALL_LETTER_e bCAPITAL_LETTER_R_WITH_STROKE bSMALL_e bCAPITAL_LETTER_Y_c bSMALL_e dTURNED_A
    dALPHA dTURNED_b dB_WITH_HOOK dOPEN_O dC_WITH_CURL dD_WITH_TAIL fHOOK dREVERSED_E dSCHWA
    dSCHWA_WITH_HOOK dOPEN_E dREVERSED_c fE_WITH_HOOK dCLOSED_REVERSED_OPEN_E dDOTLESS_J_WITH_STROKE
    dG_WITH_HOOK dSCRIPT_G bLETTER_SMALL_CAPITAL_b bSMALL_LETTER_GAMMA dRAMS_HORN dTURNED_H
    dH_WITH_HOOK dHENG_c dI_WITH_STROKE dIOTA bLETTER_SMALL_CAPITAL_I
    bSMALL_LETTER_L_WITH_MIDDLE_TILDE fBELT fRETROFLEX_HOOK dLEZH dTURNED_M eM_WITH_LONG_LEG
    dM_WITH_HOOK dN_WITH_LEFT_b fRETROFLEX_b bLETTER_SMALL_CAPITAL_N bSMALL_LETTER_BARRED_O
    bLETTER_SMALL_CAPITAL_OE bSMALL_LETTER_CLOSED_OMEGA dPHI dTURNED_R eR_WITH_LONG_LEG gHOOK
    dR_WITH_LONG_LEG fTAIL fFISHHOOK dREVERSED_d bLETTER_SMALL_CAPITAL_R eINVERTED_b
    bSMALL_LETTER_S_WITH_HOOK dESH dDOTLESS_J_WITH_STROKE_AND_HOOK dSQUAT_REVERSED_ESH
    dESH_WITH_CURL dTURNED_T dT_WITH_RETROFLEX_HOOK dU_BAR dUPSILON dV_WITH_HOOK dTURNED_V eW eY
    bLETTER_SMALL_CAPITAL_b bSMALL_LETTER_Z_WITH_RETROFLEX_HOOK fCURL dEZH dEZH_WITH_CURL
    bLETTER_GLOTTAL_STOP cPHARYNGEAL_VOICED_FRICATIVE cINVERTED_GLOTTAL_STOP cSTRETCHED_C
    cBILABIAL_CLICK cSMALL_CAPITAL_B bSMALL_LETTER_CLOSED_OPEN_E bLETTER_SMALL_CAPITAL_G_WITH_HOOK
    eH bSMALL_LETTER_J_WITH_CROSSED-TAIL dTURNED_K bLETTER_SMALL_CAPITAL_L bSMALL_LETTER_Q_WITH_HOOK
    bLETTER_GLOTTAL_STOP_WITH_STROKE cREVERSED_e bSMALL_LETTER_DZ_DIGRAPH dDEZH_b
    dDZ_DIGRAPH_WITH_CURL dTS_DIGRAPH dTESH_b dTC_DIGRAPH_WITH_CURL dFENG_DIGRAPH dLS_b dLZ_b
    bLETTER_BILABIAL_PERCUSSIVE cBIDENTAL_b bSMALL_LETTER_TURNED_H_WITH_FISHHOOK gFISHHOOK_AND_TAIL
    aMODIFIER_LETTER_SMALL_H dH_WITH_HOOK dJ dR dTURNED_b eR_WITH_HOOK dCAPITAL_INVERTED_R dW dY
    cPRIME cDOUBLE_b cTURNED_COMMA cAPOSTROPHE cREVERSED_COMMA cRIGHT_HALF_RING cLEFT_c
    cGLOTTAL_STOP cREVERSED_c cLEFT_ARROWHEAD cRIGHT_b cUP_b cDOWN_b cCIRCUMFLEX_ACCENT aCARON
    aMODIFIER_LETTER_VERTICAL_LINE cMACRON cACUTE_ACCENT cGRAVE_b cLOW_VERTICAL_LINE dMACRON
    dGRAVE_ACCENT dACUTE_b cTRIANGULAR_COLON cHALF_c cCENTRED_RIGHT_HALF_RING dLEFT_c cUP_TACK
    cDOWN_b cPLUS_SIGN cMINUS_b aBREVE aDOT_ABOVE aRING_b aOGONEK aSMALL_TILDE aDOUBLE_ACUTE_ACCENT
    aMODIFIER_LETTER_RHOTIC_HOOK cCROSS_ACCENT cSMALL_GAMMA dL dS dX dREVERSED_GLOTTAL_STOP
    cEXTRA-HIGH_TONE_BAR cd cMID_c cLOW_c cEXTRA-d cYIN_DEPARTING_TONE_MARK cYANG_d cVOICING
    cUNASPIRATED cDOUBLE_APOSTROPHE cLOW_DOWN_ARROWHEAD dUP_b dLEFT_b dRIGHT_b dRING
    cMIDDLE_GRAVE_ACCENT dDOUBLE_c eACUTE_b cLOW_TILDE cRAISED_COLON cBEGIN_HIGH_TONE cEND_c
    cBEGIN_LOW_b cEND_c cSHELF cOPEN_b cLOW_LEFT_ARROW aCOMBINING_GRAVE_ACCENT bACUTE_b
    bCIRCUMFLEX_b bTILDE bMACRON bOVERLINE bBREVE bDOT_ABOVE bDIAERESIS bHOOK_ABOVE bRING_b
    bDOUBLE_ACUTE_ACCENT bCARON bVERTICAL_LINE_ABOVE bDOUBLE_d cGRAVE_ACCENT bCANDRABINDU
    bINVERTED_BREVE bTURNED_COMMA_ABOVE bc bREVERSED_c bCOMMA_ABOVE_RIGHT bGRAVE_ACCENT_BELOW
    bACUTE_c bLEFT_TACK_b bRIGHT_c bLEFT_ANGLE_ABOVE bHORN bLEFT_HALF_RING_BELOW bUP_TACK_b bDOWN_c
    bPLUS_SIGN_b bMINUS_c bPALATALIZED_HOOK_b bRETROFLEX_c bDOT_b bDIAERESIS_b bRING_b bCOMMA_b
    bCEDILLA bOGONEK bVERTICAL_LINE_BELOW bBRIDGE_b bINVERTED_DOUBLE_ARCH_b bCARON_b
    bCIRCUMFLEX_ACCENT_b bBREVE_b bINVERTED_c bTILDE_b bMACRON_b bLOW_LINE bDOUBLE_c bTILDE_OVERLAY
    bSHORT_STROKE_b bLONG_c bSHORT_SOLIDUS_b bLONG_c bRIGHT_HALF_RING_BELOW bINVERTED_BRIDGE_b
    bSQUARE_b bSEAGULL_b bX_ABOVE bVERTICAL_TILDE bDOUBLE_OVERLINE bGRAVE_TONE_MARK bACUTE_c
    bGREEK_PERISPOMENI cKORONIS cDIALYTIKA_TONOS cYPOGEGRAMMENI bBRIDGE_ABOVE bEQUALS_SIGN_BELOW
    bDOUBLE_VERTICAL_LINE_b bLEFT_ANGLE_b bNOT_TILDE_ABOVE bHOMOTHETIC_b bALMOST_EQUAL_TO_b
    bLEFT_RIGHT_ARROW_BELOW bUPWARDS_c bGRAPHEME_JOINER bRIGHT_ARROWHEAD_ABOVE bLEFT_HALF_RING_b
    bFERMATA bX_BELOW bLEFT_ARROWHEAD_b bRIGHT_c dAND_UP_ARROWHEAD_b cHALF_RING_ABOVE
    bDOT_ABOVE_RIGHT bASTERISK_BELOW bDOUBLE_RING_b bZIGZAG_ABOVE bDOUBLE_BREVE_BELOW cBREVE cMACRON
    cMACRON_BELOW cTILDE cINVERTED_BREVE cRIGHTWARDS_ARROW_BELOW bLATIN_SMALL_LETTER_A eE eI eO eU
    eC eD eH eM eR eT eV eX aGREEK_CAPITAL_LETTER_HETA bSMALL_c bCAPITAL_LETTER_ARCHAIC_SAMPI
    bSMALL_d bNUMERAL_SIGN bLOWER_c bCAPITAL_LETTER_PAMPHYLIAN_DIGAMMA bSMALL_d 37A bYPOGEGRAMMENI
    bSMALL_REVERSED_LUNATE_SIGMA_SYMBOL cDOTTED_d cREVERSED_e bQUESTION_MARK bCAPITAL_LETTER_YOT 384
    bTONOS bDIALYTIKA_b bCAPITAL_LETTER_ALPHA_WITH_b bANO_TELEIA bCAPITAL_LETTER_EPSILON_WITH_TONOS
    dETA_c dIOTA_c 38C dOMICRON_c 38E dUPSILON_c dOMEGA_c bSMALL_LETTER_IOTA_WITH_DIALYTIKA_AND_b
    bCAPITAL_LETTER_ALPHA dBETA dGAMMA dDELTA dEPSILON dZETA dETA dTHETA dIOTA dKAPPA dLAMDA dMU dNU
    dXI dOMICRON dPI dRHO 3A3 dSIGMA dTAU dUPSILON dPHI dCHI dPSI dOMEGA dIOTA_WITH_DIALYTIKA
    dUPSILON_c bSMALL_LETTER_ALPHA_WITH_TONOS dEPSILON_c dETA_c dIOTA_c
    dUPSILON_WITH_DIALYTIKA_AND_b dALPHA dBETA dGAMMA dDELTA dEPSILON dZETA dETA dTHETA dIOTA dKAPPA
    dLAMDA dMU dNU dXI dOMICRON dPI dRHO dFINAL_SIGMA db dTAU dUPSILON dPHI dCHI dPSI dOMEGA
    dIOTA_WITH_DIALYTIKA dUPSILON_c dOMICRON_WITH_TONOS dUPSILON_c dOMEGA_c bCAPITAL_KAI_SYMBOL
    bBETA_b bTHETA_b bUPSILON_WITH_HOOK_b dACUTE_AND_c dDIAERESIS_d bPHI_b bPI_b bKAI_b
    bLETTER_ARCHAIC_KOPPA bSMALL_d bLETTER_STIGMA bSMALL_c bLETTER_DIGAMMA bSMALL_c bLETTER_KOPPA
    bSMALL_c bLETTER_SAMPI bSMALL_c aCOPTIC_CAPITAL_LETTER_SHEI bSMALL_c bCAPITAL_LETTER_FEI
    bSMALL_c bCAPITAL_LETTER_KHEI bSMALL_c bCAPITAL_LETTER_HORI bSMALL_c bCAPITAL_LETTER_GANGIA
    bSMALL_c bCAPITAL_LETTER_SHIMA bSMALL_c bCAPITAL_LETTER_DEI bSMALL_c aGREEK_KAPPA_SYMBOL bRHO_b
    bLUNATE_SIGMA_b bLETTER_YOT bCAPITAL_THETA_SYMBOL bLUNATE_EPSILON_b bREVERSED_d
    bCAPITAL_LETTER_SHO bSMALL_c bCAPITAL_LUNATE_SIGMA_SYMBOL cLETTER_SAN bSMALL_c
    bRHO_WITH_STROKE_SYMBOL bCAPITAL_REVERSED_LUNATE_SIGMA_b cDOTTED_d cREVERSED_e
    aCYRILLIC_CAPITAL_LETTER_IE_WITH_GRAVE dIO dDJE dGJE dUKRAINIAN_IE dDZE
    dBYELORUSSIAN-UKRAINIAN_I dYI dJE dLJE dNJE dTSHE dKJE dI_WITH_GRAVE dSHORT_U dDZHE dA dBE dVE
    dGHE dDE dIE dZHE dZE dI dSHORT_b dKA dEL dEM dEN dO dPE dER dES dTE dU dEF dHA dTSE dCHE dSHA
    dSHCHA dHARD_SIGN dYERU dSOFT_SIGN dE dYU dYA bSMALL_LETTER_A dBE dVE dGHE dDE dIE dZHE dZE dI
    dSHORT_b dKA dEL dEM dEN dO dPE dER dES dTE dU dEF dHA dTSE dCHE dSHA dSHCHA dHARD_SIGN dYERU
    dSOFT_SIGN dE dYU dYA dIE_WITH_GRAVE dIO dDJE dGJE dUKRAINIAN_IE dDZE dBYELORUSSIAN-UKRAINIAN_I
    dYI dJE dLJE dNJE dTSHE dKJE dI_WITH_GRAVE dSHORT_U dDZHE bCAPITAL_LETTER_OMEGA bSMALL_c
    bCAPITAL_LETTER_YAT bSMALL_c bCAPITAL_LETTER_IOTIFIED_E bSMALL_d bCAPITAL_LETTER_LITTLE_YUS
    bSMALL_d bCAPITAL_LETTER_IOTIFIED_c bSMALL_e bCAPITAL_LETTER_BIG_b bSMALL_d
    bCAPITAL_LETTER_IOTIFIED_c bSMALL_e bCAPITAL_LETTER_KSI bSMALL_c bCAPITAL_LETTER_PSI bSMALL_c
    bCAPITAL_LETTER_FITA bSMALL_c bCAPITAL_LETTER_IZHITSA bSMALL_c
    bCAPITAL_LETTER_IZHITSA_WITH_DOUBLE_GRAVE_ACCENT bSMALL_g bCAPITAL_LETTER_UK bSMALL_c
    bCAPITAL_LETTER_ROUND_OMEGA bSMALL_d bCAPITAL_LETTER_OMEGA_WITH_TITLO bSMALL_e
    bCAPITAL_LETTER_OT bSMALL_c bCAPITAL_LETTER_KOPPA bSMALL_c bTHOUSANDS_SIGN
    aCOMBINING_CYRILLIC_TITLO cPALATALIZATION cDASIA_PNEUMATA cPSILI_b cPOKRYTIE
    cHUNDRED_THOUSANDS_SIGN cMILLIONS_b aCYRILLIC_CAPITAL_LETTER_SHORT_I_WITH_TAIL bSMALL_f
    bCAPITAL_LETTER_SEMISOFT_SIGN bSMALL_d bCAPITAL_LETTER_ER_WITH_TICK bSMALL_e
    bCAPITAL_LETTER_GHE_WITH_UPTURN bSMALL_e bCAPITAL_LETTER_GHE_WITH_STROKE bSMALL_e
    bCAPITAL_LETTER_GHE_WITH_MIDDLE_HOOK bSMALL_f bCAPITAL_LETTER_ZHE_WITH_DESCENDER bSMALL_e
    bCAPITAL_LETTER_ZE_c bSMALL_e bCAPITAL_LETTER_KA_c bSMALL_e
    bCAPITAL_LETTER_KA_WITH_VERTICAL_STROKE bSMALL_f bCAPITAL_LETTER_KA_WITH_b bSMALL_e
    bCAPITAL_LETTER_BASHKIR_KA bSMALL_d bCAPITAL_LETTER_EN_WITH_DESCENDER bSMALL_e
    bCAPITAL_LIGATURE_EN_GHE bSMALL_d bCAPITAL_LETTER_PE_WITH_MIDDLE_HOOK bSMALL_f
    bCAPITAL_LETTER_ABKHASIAN_HA bSMALL_d bCAPITAL_LETTER_ES_WITH_DESCENDER bSMALL_e
    bCAPITAL_LETTER_TE_c bSMALL_e bCAPITAL_LETTER_STRAIGHT_U bSMALL_d
    bCAPITAL_LETTER_STRAIGHT_U_WITH_STROKE bSMALL_f bCAPITAL_LETTER_HA_WITH_DESCENDER bSMALL_e
    bCAPITAL_LIGATURE_TE_TSE bSMALL_d bCAPITAL_LETTER_CHE_WITH_DESCENDER bSMALL_e
    bCAPITAL_LETTER_CHE_WITH_VERTICAL_STROKE bSMALL_f bCAPITAL_LETTER_SHHA bSMALL_c
    bCAPITAL_LETTER_ABKHASIAN_CHE bSMALL_d bCAPITAL_LETTER_ABKHASIAN_CHE_WITH_DESCENDER bSMALL_f
    bLETTER_PALOCHKA bCAPITAL_LETTER_ZHE_WITH_BREVE bSMALL_e bCAPITAL_LETTER_KA_WITH_HOOK bSMALL_e
    bCAPITAL_LETTER_EL_WITH_TAIL bSMALL_e bCAPITAL_LETTER_EN_WITH_HOOK bSMALL_e
    bCAPITAL_LETTER_EN_WITH_TAIL bSMALL_e bCAPITAL_LETTER_KHAKASSIAN_CHE bSMALL_d
    bCAPITAL_LETTER_EM_WITH_TAIL bSMALL_e dPALOCHKA bCAPITAL_LETTER_A_WITH_BREVE bSMALL_e
    bCAPITAL_LETTER_A_WITH_DIAERESIS bSMALL_e bCAPITAL_LIGATURE_A_IE bSMALL_d
    bCAPITAL_LETTER_IE_WITH_BREVE bSMALL_e bCAPITAL_LETTER_SCHWA bSMALL_c
    bCAPITAL_LETTER_SCHWA_WITH_DIAERESIS bSMALL_e bCAPITAL_LETTER_ZHE_c bSMALL_e
    bCAPITAL_LETTER_ZE_c bSMALL_e bCAPITAL_LETTER_ABKHASIAN_DZE bSMALL_d
    bCAPITAL_LETTER_I_WITH_MACRON bSMALL_e bCAPITAL_LETTER_I_WITH_DIAERESIS bSMALL_e
    bCAPITAL_LETTER_O_c bSMALL_e bCAPITAL_LETTER_BARRED_O bSMALL_d
    bCAPITAL_LETTER_BARRED_O_WITH_DIAERESIS bSMALL_f bCAPITAL_LETTER_E_c bSMALL_e
    bCAPITAL_LETTER_U_WITH_MACRON bSMALL_e bCAPITAL_LETTER_U_WITH_DIAERESIS bSMALL_e
    bCAPITAL_LETTER_U_WITH_DOUBLE_ACUTE bSMALL_f bCAPITAL_LETTER_CHE_WITH_DIAERESIS bSMALL_e
    bCAPITAL_LETTER_GHE_WITH_DESCENDER bSMALL_e bCAPITAL_LETTER_YERU_WITH_DIAERESIS bSMALL_e
    bCAPITAL_LETTER_GHE_WITH_STROKE_AND_HOOK bSMALL_g bCAPITAL_LETTER_HA_WITH_b bSMALL_e
    bCAPITAL_LETTER_HA_WITH_STROKE bSMALL_e bCAPITAL_LETTER_KOMI_DE bSMALL_d
    bCAPITAL_LETTER_KOMI_DJE bSMALL_d bCAPITAL_LETTER_KOMI_ZJE bSMALL_d bCAPITAL_LETTER_KOMI_DZJE
    bSMALL_d bCAPITAL_LETTER_KOMI_LJE bSMALL_d bCAPITAL_LETTER_KOMI_NJE bSMALL_d
    bCAPITAL_LETTER_KOMI_SJE bSMALL_d bCAPITAL_LETTER_KOMI_TJE bSMALL_d bCAPITAL_LETTER_REVERSED_ZE
    bSMALL_d bCAPITAL_LETTER_EL_WITH_HOOK bSMALL_e bCAPITAL_LETTER_LHA bSMALL_c bCAPITAL_LETTER_RHA
    bSMALL_c bCAPITAL_LETTER_YAE bSMALL_c bCAPITAL_LETTER_QA bSMALL_c bCAPITAL_LETTER_WE bSMALL_c
    bCAPITAL_LETTER_ALEUT_KA bSMALL_d bCAPITAL_LETTER_EL_WITH_MIDDLE_HOOK bSMALL_f
    bCAPITAL_LETTER_EN_d bSMALL_f bCAPITAL_LETTER_PE_WITH_DESCENDER bSMALL_e bCAPITAL_LETTER_SHHA_c
    bSMALL_e bCAPITAL_LETTER_EN_WITH_LEFT_HOOK bSMALL_f bCAPITAL_LETTER_DZZHE bSMALL_c
    bCAPITAL_LETTER_DCHE bSMALL_c bCAPITAL_LETTER_EL_WITH_DESCENDER bSMALL_e 531
    aARMENIAN_CAPITAL_LETTER_AYB dBEN dGIM dDA dECH dZA dEH dET dTO dZHE dINI dLIWN dXEH dCA dKEN
    dHO dJA dGHAD dCHEH dMEN dYI dNOW dSHA dVO dCHA dPEH dJHEH dRA dSEH dVEW dTIWN dREH dCO dYIWN
    dPIWR dKEH dOH dFEH 559 bMODIFIER_LETTER_LEFT_HALF_RING bAPOSTROPHE bEMPHASIS_MARK
    bEXCLAMATION_b bCOMMA bQUESTION_MARK bABBREVIATION_b bSMALL_LETTER_TURNED_AYB db dBEN dGIM dDA
    dECH dZA dEH dET dTO dZHE dINI dLIWN dXEH dCA dKEN dHO dJA dGHAD dCHEH dMEN dYI dNOW dSHA dVO
    dCHA dPEH dJHEH dRA dSEH dVEW dTIWN dREH dCO dYIWN dPIWR dKEH dOH dFEH cLIGATURE_ECH_YIWN
    cLETTER_YI_WITH_STROKE bFULL_STOP bHYPHEN 58D aRIGHT-FACING_ARMENIAN_ETERNITY_SIGN aLEFT-e
    aARMENIAN_DRAM_b 591 aHEBREW_ACCENT_ETNAHTA cSEGOL cSHALSHELET cZAQEF_QATAN dGADOL cTIPEHA
    cREVIA cZARQA cPASHTA cYETIV cTEVIR cGERESH cGERESH_MUQDAM cGERSHAYIM cQARNEY_PARA
    cTELISHA_GEDOLA cPAZER cATNAH_HAFUKH cMUNAH cMAHAPAKH cMERKHA cMERKHA_KEFULA cDARGA cQADMA
    cTELISHA_QETANA cYERAH_BEN_YOMO cOLE cILUY cDEHI cZINOR bMARK_MASORA_CIRCLE bPOINT_SHEVA
    cHATAF_SEGOL dPATAH dQAMATS cHIRIQ cTSERE cSEGOL cPATAH cQAMATS cHOLAM cHOLAM_HASER_FOR_VAV
    cQUBUTS cDAGESH_OR_MAPIQ cMETEG bPUNCTUATION_MAQAF bPOINT_RAFE bPUNCTUATION_PASEQ
    bPOINT_SHIN_DOT cSIN_b bPUNCTUATION_SOF_PASUQ bMARK_UPPER_DOT cLOWER_b bPUNCTUATION_NUN_HAFUKHA
    bPOINT_QAMATS_QATAN 5D0 bLETTER_ALEF cBET cGIMEL cDALET cHE cVAV cZAYIN cHET cTET cYOD
    cFINAL_KAF cb cLAMED cFINAL_MEM cb cFINAL_NUN cb cSAMEKH cAYIN cFINAL_PE cb cFINAL_TSADI cb cQOF
    cRESH cSHIN cTAV 5EF bYOD_TRIANGLE bLIGATURE_YIDDISH_DOUBLE_VAV dVAV_YOD dDOUBLE_b
    bPUNCTUATION_GERESH cGERSHAYIM 600 aARABIC_NUMBER_SIGN bSIGN_SANAH bFOOTNOTE_MARKER bSIGN_SAFHA
    cSAMVAT bNUMBER_MARK_ABOVE aARABIC-INDIC_CUBE_ROOT cFOURTH_b aARABIC_RAY
    aARABIC-INDIC_PER_MILLE_SIGN dTEN_THOUSAND_b aAFGHANI_b aARABIC_COMMA bDATE_SEPARATOR
    bPOETIC_VERSE_SIGN bSIGN_MISRA cSALLALLAHOU_ALAYHE_WASSALLAM cALAYHE_ASSALLAM
    cRAHMATULLAH_ALAYHE cRADI_ALLAHOU_ANHU cTAKHALLUS bSMALL_HIGH_TAH
    dLIGATURE_ALEF_WITH_LAM_WITH_YEH dZAIN cFATHA cDAMMA cKASRA bSEMICOLON bLETTER_MARK
    bEND_OF_TEXT_b bTRIPLE_DOT_PUNCTUATION_b bQUESTION_b bLETTER_KASHMIRI_YEH cHAMZA
    cALEF_WITH_MADDA_ABOVE eHAMZA_b cWAW_d cALEF_WITH_HAMZA_BELOW cYEH_WITH_HAMZA_ABOVE cALEF cBEH
    cTEH_MARBUTA cTEH cTHEH cJEEM cHAH cKHAH cDAL cTHAL cREH cZAIN cSEEN cSHEEN cSAD cDAD cTAH cZAH
    cAIN cGHAIN cKEHEH_WITH_TWO_DOTS_ABOVE eTHREE_DOTS_BELOW cFARSI_YEH_WITH_INVERTED_V
    fTWO_DOTS_ABOVE fTHREE_c bTATWEEL bLETTER_FEH cQAF cKAF cLAM cMEEM cNOON cHEH cWAW cALEF_MAKSURA
    cYEH bFATHATAN bDAMMATAN bKASRATAN bFATHA bDAMMA bKASRA bSHADDA bSUKUN bMADDAH_ABOVE bHAMZA_b
    cBELOW bSUBSCRIPT_ALEF bINVERTED_DAMMA bMARK_NOON_GHUNNA bZWARAKAY bVOWEL_SIGN_SMALL_V_ABOVE
    dINVERTED_d dDOT_BELOW bREVERSED_DAMMA bFATHA_WITH_TWO_DOTS bWAVY_HAMZA_BELOW
    aARABIC-INDIC_DIGIT_ZERO dONE dTWO dTHREE dFOUR dFIVE dSIX dSEVEN dEIGHT dNINE
    aARABIC_PERCENT_SIGN bDECIMAL_SEPARATOR bTHOUSANDS_b bFIVE_POINTED_STAR bLETTER_DOTLESS_BEH dQAF
    cSUPERSCRIPT_ALEF cALEF_WASLA dWITH_WAVY_HAMZA_ABOVE gBELOW cHIGH_HAMZA dHAMZA_ALEF eWAW
    cU_WITH_HAMZA_ABOVE cHIGH_HAMZA_YEH cTTEH cTTEHEH cBEEH cTEH_WITH_RING
    eTHREE_DOTS_ABOVE_DOWNWARDS cPEH cTEHEH cBEHEH cHAH_WITH_HAMZA_ABOVE eTWO_DOTS_VERTICAL_b cNYEH
    cDYEH cHAH_WITH_THREE_DOTS_ABOVE cTCHEH cTCHEHEH cDDAL cDAL_WITH_RING eDOT_BELOW
    fBELOW_AND_SMALL_TAH cDAHAL cDDAHAL cDUL cDAL_WITH_THREE_DOTS_ABOVE_DOWNWARDS eFOUR_DOTS_ABOVE
    cRREH cREH_WITH_SMALL_V eRING eDOT_BELOW eSMALL_V_b eDOT_BELOW_AND_DOT_ABOVE eTWO_DOTS_b cJEH
    cREH_WITH_FOUR_DOTS_ABOVE cSEEN_WITH_DOT_BELOW_AND_DOT_b eTHREE_DOTS_BELOW
    gBELOW_AND_THREE_DOTS_ABOVE cSAD_WITH_TWO_DOTS_BELOW eTHREE_DOTS_ABOVE cTAH_e cAIN_e
    cDOTLESS_FEH cFEH_WITH_DOT_MOVED_BELOW fb cVEH cFEH_WITH_THREE_DOTS_BELOW cPEHEH
    cQAF_WITH_DOT_ABOVE eTHREE_DOTS_b cKEHEH cSWASH_KAF cKAF_WITH_RING eDOT_ABOVE cNG
    cKAF_WITH_THREE_DOTS_BELOW cGAF cGAF_WITH_RING cNGOEH cGAF_WITH_TWO_DOTS_BELOW cGUEH
    cGAF_WITH_THREE_DOTS_ABOVE cLAM_WITH_SMALL_V eDOT_ABOVE eTHREE_DOTS_b gBELOW cNOON_WITH_DOT_b
    dGHUNNA cRNOON cNOON_WITH_RING eTHREE_DOTS_ABOVE cHEH_DOACHASHMEE cTCHEH_WITH_DOT_ABOVE
    cHEH_WITH_YEH_b dGOAL dGOAL_WITH_HAMZA_ABOVE cTEH_MARBUTA_GOAL cWAW_WITH_RING cKIRGHIZ_OE cb cU
    cYU cKIRGHIZ_b cWAW_WITH_TWO_DOTS_ABOVE cVE cFARSI_YEH cYEH_WITH_TAIL eSMALL_V
    cWAW_WITH_DOT_ABOVE cE cYEH_WITH_THREE_DOTS_BELOW dBARREE dBARREE_WITH_HAMZA_ABOVE bFULL_STOP
    bLETTER_AE bSMALL_HIGH_LIGATURE_SAD_WITH_LAM_WITH_ALEF_MAKSURA eQAF_f dMEEM_INITIAL_FORM
    dLAM_ALEF dJEEM dTHREE_DOTS dSEEN bEND_OF_AYAH bSTART_OF_RUB_EL_HIZB bSMALL_HIGH_ROUNDED_ZERO
    dUPRIGHT_RECTANGULAR_b dDOTLESS_HEAD_OF_KHAH dMEEM_ISOLATED_FORM cLOW_SEEN cHIGH_MADDA cWAW cYEH
    cHIGH_b dNOON bPLACE_OF_SAJDAH bEMPTY_CENTRE_LOW_STOP dHIGH_b
    bROUNDED_HIGH_STOP_WITH_FILLED_CENTRE bSMALL_LOW_MEEM bLETTER_DAL_WITH_INVERTED_V cREH_d
    aEXTENDED_ARABIC-INDIC_DIGIT_ZERO eONE eTWO eTHREE eFOUR eFIVE eSIX eSEVEN eEIGHT eNINE
    aARABIC_LETTER_SHEEN_WITH_DOT_BELOW cDAD_d cGHAIN_d bSIGN_SINDHI_AMPERSAND dPOSTPOSITION_MEN
    bLETTER_HEH_WITH_INVERTED_V aSYRIAC_END_OF_PARAGRAPH bSUPRALINEAR_FULL_STOP bSUBLINEAR_c
    bSUPRALINEAR_COLON bSUBLINEAR_b bHORIZONTAL_b bCOLON_SKEWED_LEFT dRIGHT
    bSUPRALINEAR_COLON_SKEWED_LEFT bSUBLINEAR_COLON_SKEWED_RIGHT bCONTRACTION bHARKLEAN_OBELUS
    cMETOBELUS cASTERISCUS 70F bABBREVIATION_MARK bLETTER_ALAPH cSUPERSCRIPT_b cBETH cGAMAL
    cGAMAL_GARSHUNI cDALATH cDOTLESS_DALATH_RISH cHE cWAW cZAIN cHETH cTETH cTETH_GARSHUNI cYUDH
    cYUDH_HE cKAPH cLAMADH cMIM cNUN cSEMKATH cFINAL_b cE cPE cREVERSED_b cSADHE cQAPH cRISH cSHIN
    cTAW cPERSIAN_BHETH dGHAMAL dDHALATH bPTHAHA_ABOVE cBELOW cDOTTED bZQAPHA_ABOVE cBELOW cDOTTED
    bRBASA_ABOVE cBELOW bDOTTED_ZLAMA_HORIZONTAL dANGULAR bHBASA_ABOVE cBELOW bHBASA-ESASA_DOTTED
    bESASA_ABOVE cBELOW bRWAHA bFEMININE_DOT bQUSHSHAYA bRUKKAKHA bTWO_VERTICAL_DOTS_ABOVE eBELOW
    bTHREE_DOTS_ABOVE dBELOW bOBLIQUE_LINE_ABOVE dBELOW bMUSIC bBARREKH 74D bLETTER_SOGDIAN_ZHAIN
    dKHAPH dFE aARABIC_LETTER_BEH_WITH_THREE_DOTS_HORIZONTALLY_BELOW eDOT_BELOW_AND_THREE_DOTS_ABOVE
    eTHREE_DOTS_POINTING_UPWARDS_BELOW iBELOW_AND_TWO_DOTS_ABOVE eTWO_DOTS_BELOW_AND_DOT_b
    eINVERTED_SMALL_V_BELOW eSMALL_V cHAH_WITH_TWO_DOTS_ABOVE eTHREE_DOTS_POINTING_UPWARDS_BELOW
    cDAL_WITH_TWO_DOTS_VERTICALLY_BELOW_AND_SMALL_TAH eINVERTED_SMALL_V_BELOW cREH_WITH_STROKE
    cSEEN_WITH_FOUR_DOTS_ABOVE cAIN_WITH_TWO_c eTHREE_DOTS_POINTING_DOWNWARDS_b
    eTWO_DOTS_VERTICALLY_b cFEH_WITH_TWO_DOTS_BELOW eTHREE_DOTS_POINTING_UPWARDS_b
    cKEHEH_WITH_DOT_ABOVE eTHREE_DOTS_b gPOINTING_UPWARDS_BELOW cMEEM_WITH_DOT_ABOVE fBELOW
    cNOON_WITH_TWO_DOTS_b eSMALL_TAH fV cLAM_WITH_BAR cREH_WITH_TWO_DOTS_VERTICALLY_ABOVE eHAMZA_b
    cSEEN_WITH_TWO_DOTS_VERTICALLY_b cHAH_WITH_SMALL_ARABIC_LETTER_TAH_BELOW iAND_TWO_DOTS cSEEN_i
    cREH_i cHAH_WITH_SMALL_ARABIC_LETTER_TAH_ABOVE cALEF_WITH_EXTENDED_ARABIC-INDIC_DIGIT_TWO_b
    iTHREE_b cFARSI_YEH_WITH_EXTENDED_ARABIC-INDIC_DIGIT_TWO_b jTHREE_b jFOUR_BELOW
    cWAW_WITH_EXTENDED_ARABIC-INDIC_DIGIT_TWO_ABOVE iTHREE_b
    cYEH_BARREE_WITH_EXTENDED_ARABIC-INDIC_DIGIT_TWO_b jTHREE_b
    cHAH_WITH_EXTENDED_ARABIC-INDIC_DIGIT_FOUR_BELOW
    cSEEN_WITH_EXTENDED_ARABIC-INDIC_DIGIT_FOUR_ABOVE eINVERTED_V cKAF_WITH_TWO_DOTS_ABOVE
    aTHAANA_LETTER_HAA cSHAVIYANI cNOONU cRAA cBAA cLHAVIYANI cKAAFU cALIFU cVAAVU cMEEMU cFAAFU
    cDHAALU cTHAA cLAAMU cGAAFU cGNAVIYANI cSEENU cDAVIYANI cZAVIYANI cTAVIYANI cYAA cPAVIYANI
    cJAVIYANI cCHAVIYANI cTTAA cHHAA cKHAA cTHAALU cZAA cSHEENU cSAADHU cDAADHU cTO cZO cAINU
    cGHAINU cQAAFU cWAAVU bABAFILI bAABAAFILI bIBIFILI bEEBEEFILI bUBUFILI bOOBOOFILI bEBEFILI
    bEYBEYFILI bOBOFILI bOABOAFILI bSUKUN bLETTER_NAA 7C0 aNKO_DIGIT_ZERO cONE cTWO cTHREE cFOUR
    cFIVE cSIX cSEVEN cEIGHT cNINE bLETTER_A cEE cI cE cU cOO cO cDAGBASINNA cN cBA cPA cTA cJA cCHA
    cDA cRA cRRA cSA cGBA cFA cKA cLA cNA_WOLOSO cMA cNYA cNA cHA cWA cYA cNYA_WOLOSO cJONA_JA dCHA
    dRA bCOMBINING_SHORT_HIGH_TONE dLOW_b dRISING_b cLONG_DESCENDING_b dHIGH_b dLOW_b dRISING_b
    cNASALIZATION_MARK cDOUBLE_DOT_ABOVE bHIGH_TONE_APOSTROPHE bLOW_c bSYMBOL_OO_DENNEN cGBAKURUNEN
    bCOMMA bEXCLAMATION_MARK bLAJANYALAN 7FD bDANTAYALAN bDOROME_SIGN bTAMAN_b
    aSAMARITAN_LETTER_ALAF cBIT cGAMAN cDALAT cIY cBAA cZEN cIT cTIT cYUT cKAAF cLABAT cMIM cNUN
    cSINGAAT cIN cFI cTSAADIY cQUF cRISH cSHAN cTAAF bMARK_IN cIN-ALAF cOCCLUSION cDAGESH
    bMODIFIER_LETTER_EPENTHETIC_YUT bMARK_c bVOWEL_SIGN_LONG_E db dOVERLONG_AA dLONG_b db
    dOVERLONG_A dLONG_b db bMODIFIER_LETTER_SHORT_b bVOWEL_SIGN_c dLONG_U db bMODIFIER_LETTER_I
    bVOWEL_SIGN_LONG_b db dO dSUKUN bMARK_NEQUDAA 830 bPUNCTUATION_b cAFSAAQ cANGED cBAU cATMAAU
    cSHIYYAALAA bABBREVIATION_MARK bPUNCTUATION_MELODIC_QITSA cZIQAA cQITSA cZAEF cTURU cARKAANU
    cSOF_MASHFAAT cANNAAU 840 aMANDAIC_LETTER_HALQA cAB cAG cAD cAH cUSHENNA cAZ cIT cATT cAKSA cAK
    cAL cAM cAN cAS cIN cAP cASZ cAQ cAR cASH cAT cDUSHENNA cKAD cAIN bAFFRICATION_MARK
    bVOCALIZATION_b bGEMINATION_b 85E bPUNCTUATION 860 aSYRIAC_LETTER_MALAYALAM_NGA dJA dNYA dTTA
    dNNA dNNNA dBHA dRA dLLA dLLLA dSSA 870 aARABIC_LETTER_ALEF_WITH_ATTACHED_FATHA fTOP_RIGHT_b
    eRIGHT_MIDDLE_STROKE eLEFT_c eATTACHED_KASRA fBOTTOM_RIGHT_b fROUND_DOT_ABOVE fRIGHT_ROUND_DOT
    fLEFT_c fROUND_DOT_BELOW eDOT_ABOVE eATTACHED_TOP_RIGHT_FATHA_AND_c eRIGHT_MIDDLE_STROKE_d
    eATTACHED_BOTTOM_RIGHT_KASRA_d fTOP_RIGHT_FATHA_AND_LEFT_RING eRIGHT_MIDDLE_STROKE_d
    eATTACHED_BOTTOM_RIGHT_KASRA_d fRIGHT_HAMZA fLEFT_b bTATWEEL_WITH_OVERSTRUCK_b eWAW
    dTWO_DOTS_BELOW bLETTER_THIN_YEH bBASELINE_ROUND_DOT bRAISED_c
    bLETTER_NOON_WITH_INVERTED_SMALL_V cHAH_WITH_INVERTED_SMALL_V_BELOW cTAH_WITH_DOT_b
    eTHREE_DOTS_b cKEHEH_WITH_TWO_DOTS_VERTICALLY_b bVERTICAL_TAIL 890 bPOUND_MARK_ABOVE bPIASTRE_c
    898 bSMALL_HIGH_WORD_AL-JUZ cLOW_WORD_ISHMAAM eIMAALA eTASHEEL bMADDA_WAAJIB
    bSUPERSCRIPT_ALEF_MOKHASSAS bDOUBLED_MADDA bHALF_MADDA_OVER_b bLETTER_BEH_WITH_SMALL_V_BELOW
    eHAMZA_ABOVE cJEEM_WITH_TWO_DOTS_b cTAH_e cFEH_WITH_DOT_BELOW_AND_THREE_c cQAF_WITH_DOT_BELOW
    cLAM_WITH_DOUBLE_BAR cMEEM_WITH_THREE_DOTS_ABOVE cYEH_WITH_TWO_DOTS_BELOW_AND_HAMZA_b iDOT_b
    cREH_WITH_LOOP cWAW_WITH_DOT_WITHIN cROHINGYA_YEH cLOW_ALEF cDAL_WITH_THREE_DOTS_BELOW cSAD_e
    cGAF_WITH_INVERTED_STROKE cSTRAIGHT_WAW cZAIN_WITH_INVERTED_V_ABOVE cAIN_WITH_THREE_DOTS_BELOW
    cKAF_WITH_DOT_b cQAF_WITH_DOT_BELOW_AND_NO_DOTS_ABOVE cBEH_WITH_SMALL_MEEM_b cPEH_e
    cTEH_WITH_SMALL_TEH_b cREH_WITH_SMALL_NOON_b cYEH_WITH_TWO_DOTS_BELOW_AND_d cAFRICAN_FEH dQAF
    dNOON cPEH_WITH_SMALL_V cTEH_d cTTEH_d cTCHEH_d cKEHEH_d cGHAIN_WITH_THREE_DOTS_ABOVE
    cAFRICAN_QAF_e cJEEM_e gBELOW cLAM_WITH_SMALL_ARABIC_LETTER_TAH_ABOVE cGRAF bSMALL_FARSI_YEH
    cHIGH_c dYEH_BARREE_WITH_TWO_DOTS_BELOW dWORD_SAH dZAH bLARGE_ROUND_DOT_ABOVE eBELOW bSUKUN_b
    bLARGE_CIRCLE_b cROUND_DOT_INSIDE_c bSMALL_LOW_WAW cHIGH_WORD_AR-RUB dSAD dAIN dQAF
    dNOON_WITH_KASRA cLOW_d cHIGH_WORD_ATH-THALATHA eAS-SAJDA eAN-NISF eSAKTA eQIF eWAQFA
    dFOOTNOTE_MARKER dSIGN_SAFHA bDISPUTED_END_OF_AYAH bTURNED_DAMMA_BELOW bCURLY_FATHA cDAMMA
    cKASRA cFATHATAN cDAMMATAN cKASRATAN bTONE_ONE_DOT_ABOVE cTWO_DOTS_b cLOOP_b cONE_DOT_BELOW
    cTWO_DOTS_b cLOOP_b bOPEN_FATHATAN cDAMMATAN cKASRATAN bSMALL_HIGH_WAW bFATHA_WITH_RING
    dDOT_ABOVE bKASRA_WITH_DOT_BELOW bLEFT_ARROWHEAD_ABOVE bRIGHT_c bLEFT_ARROWHEAD_BELOW bRIGHT_c
    bDOUBLE_RIGHT_ARROWHEAD_ABOVE eABOVE_WITH_DOT bf bDAMMA_c bMARK_SIDEWAYS_NOON_GHUNNA
    aDEVANAGARI_SIGN_INVERTED_CANDRABINDU cb cANUSVARA cVISARGA bLETTER_SHORT_A cb cAA cI cII cU cUU
    cVOCALIC_R dL cCANDRA_E cSHORT_b cb cAI cCANDRA_O cSHORT_b cb cAU cKA cKHA cGA cGHA cNGA cCA
    cCHA cJA cJHA cNYA cTTA cTTHA cDDA cDDHA cNNA cTA cTHA cDA cDHA cNA cNNNA cPA cPHA cBA cBHA cMA
    cYA cRA cRRA cLA cLLA cLLLA cVA cSHA cSSA cSA cHA bVOWEL_SIGN_OE dOOE bSIGN_NUKTA cAVAGRAHA
    bVOWEL_SIGN_AA dI dII dU dUU dVOCALIC_R eRR dCANDRA_E dSHORT_b db dAI dCANDRA_O dSHORT_b db dAU
    bSIGN_VIRAMA bVOWEL_SIGN_PRISHTHAMATRA_E dAW bOM bSTRESS_SIGN_UDATTA dANUDATTA bGRAVE_ACCENT
    bACUTE_b bVOWEL_SIGN_CANDRA_LONG_E dUE dUUE bLETTER_QA cKHHA cGHHA cZA cDDDHA cRHA cFA cYYA
    cVOCALIC_RR dLL bVOWEL_SIGN_VOCALIC_L eLL bDANDA bDOUBLE_b bDIGIT_ZERO cONE cTWO cTHREE cFOUR
    cFIVE cSIX cSEVEN cEIGHT cNINE bABBREVIATION_SIGN bSIGN_HIGH_SPACING_DOT bLETTER_CANDRA_A cOE
    cOOE cAW cUE cUUE cMARWARI_DDA cZHA cHEAVY_YA cGGA cJJA cGLOTTAL_STOP cDDDA cBBA aBENGALI_ANJI
    bSIGN_CANDRABINDU cANUSVARA cVISARGA 985 bLETTER_A cAA cI cII cU cUU cVOCALIC_R dL 98F cE cAI
    993 cO cAU cKA cKHA cGA cGHA cNGA cCA cCHA cJA cJHA cNYA cTTA cTTHA cDDA cDDHA cNNA cTA cTHA cDA
    cDHA cNA 9AA cPA cPHA cBA cBHA cMA cYA cRA 9B2 cLA 9B6 cSHA cSSA cSA cHA 9BC bSIGN_NUKTA
    cAVAGRAHA bVOWEL_SIGN_AA dI dII dU dUU dVOCALIC_R eRR 9C7 dE dAI 9CB dO dAU bSIGN_VIRAMA
    bLETTER_KHANDA_TA 9D7 bAU_LENGTH_MARK 9DC bLETTER_RRA cRHA 9DF cYYA cVOCALIC_RR dLL
    bVOWEL_SIGN_VOCALIC_L eLL 9E6 bDIGIT_ZERO cONE cTWO cTHREE cFOUR cFIVE cSIX cSEVEN cEIGHT cNINE
    bLETTER_RA_WITH_MIDDLE_DIAGONAL eLOWER_b bRUPEE_MARK cSIGN bCURRENCY_NUMERATOR_ONE dTWO dTHREE
    dFOUR dONE_LESS_THAN_THE_DENOMINATOR cDENOMINATOR_SIXTEEN bISSHAR bGANDA_MARK
    bLETTER_VEDIC_ANUSVARA bABBREVIATION_SIGN bSANDHI_MARK A01 aGURMUKHI_SIGN_ADAK_BINDI cb cVISARGA
    A05 bLETTER_A cAA cI cII cU cUU A0F cEE cAI A13 cOO cAU cKA cKHA cGA cGHA cNGA cCA cCHA cJA cJHA
    cNYA cTTA cTTHA cDDA cDDHA cNNA cTA cTHA cDA cDHA cNA A2A cPA cPHA cBA cBHA cMA cYA cRA A32 cLA
    cLLA A35 cVA cSHA A38 cSA cHA A3C bSIGN_NUKTA A3E bVOWEL_SIGN_AA dI dII dU dUU A47 dEE dAI A4B
    dOO dAU bSIGN_VIRAMA A51 cUDAAT A59 bLETTER_KHHA cGHHA cZA cRRA A5E cFA A66 bDIGIT_ZERO cONE
    cTWO cTHREE cFOUR cFIVE cSIX cSEVEN cEIGHT cNINE bTIPPI bADDAK bIRI bURA bEK_ONKAR bSIGN_YAKASH
    bABBREVIATION_SIGN A81 aGUJARATI_SIGN_CANDRABINDU cANUSVARA cVISARGA A85 bLETTER_A cAA cI cII cU
    cUU cVOCALIC_R dL bVOWEL_CANDRA_E A8F bLETTER_b cAI bVOWEL_CANDRA_O A93 bLETTER_b cAU cKA cKHA
    cGA cGHA cNGA cCA cCHA cJA cJHA cNYA cTTA cTTHA cDDA cDDHA cNNA cTA cTHA cDA cDHA cNA AAA cPA
    cPHA cBA cBHA cMA cYA cRA AB2 cLA cLLA AB5 cVA cSHA cSSA cSA cHA ABC bSIGN_NUKTA cAVAGRAHA
    bVOWEL_SIGN_AA dI dII dU dUU dVOCALIC_R eRR dCANDRA_E AC7 db dAI dCANDRA_O ACB db dAU
    bSIGN_VIRAMA AD0 bOM AE0 bLETTER_VOCALIC_RR dLL bVOWEL_SIGN_VOCALIC_L eLL AE6 bDIGIT_ZERO cONE
    cTWO cTHREE cFOUR cFIVE cSIX cSEVEN cEIGHT cNINE bABBREVIATION_SIGN bRUPEE_b AF9 bLETTER_ZHA
    bSIGN_SUKUN cSHADDA cMADDAH cTHREE-DOT_NUKTA_ABOVE cCIRCLE_c cTWO-d B01 aORIYA_SIGN_CANDRABINDU
    cANUSVARA cVISARGA B05 bLETTER_A cAA cI cII cU cUU cVOCALIC_R dL B0F cE cAI B13 cO cAU cKA cKHA
    cGA cGHA cNGA cCA cCHA cJA cJHA cNYA cTTA cTTHA cDDA cDDHA cNNA cTA cTHA cDA cDHA cNA B2A cPA
    cPHA cBA cBHA cMA cYA cRA B32 cLA cLLA B35 cVA cSHA cSSA cSA cHA B3C bSIGN_NUKTA cAVAGRAHA
    bVOWEL_SIGN_AA dI dII dU dUU dVOCALIC_R eRR B47 dE dAI B4B dO dAU bSIGN_VIRAMA B55 cOVERLINE
    bAI_LENGTH_MARK bAU_c B5C bLETTER_RRA cRHA B5F cYYA cVOCALIC_RR dLL bVOWEL_SIGN_VOCALIC_L eLL
    B66 bDIGIT_ZERO cONE cTWO cTHREE cFOUR cFIVE cSIX cSEVEN cEIGHT cNINE bISSHAR bLETTER_WA
    bFRACTION_ONE_QUARTER dHALF cTHREE_QUARTERS cONE_SIXTEENTH dEIGHTH cTHREE_SIXTEENTHS B82
    aTAMIL_SIGN_ANUSVARA cVISARGA B85 bLETTER_A cAA cI cII cU cUU B8E cE cEE cAI B92 cO cOO cAU cKA
    B99 cNGA cCA B9C cJA B9E cNYA cTTA BA3 cNNA cTA BA8 cNA cNNNA cPA BAE cMA cYA cRA cRRA cLA cLLA
    cLLLA cVA cSHA cSSA cSA cHA BBE bVOWEL_SIGN_AA dI dII dU dUU BC6 dE dEE dAI BCA dO dOO dAU
    bSIGN_VIRAMA BD0 bOM BD7 bAU_LENGTH_MARK BE6 bDIGIT_ZERO cONE cTWO cTHREE cFOUR cFIVE cSIX
    cSEVEN cEIGHT cNINE bNUMBER_TEN cONE_HUNDRED dTHOUSAND bDAY_SIGN bMONTH_b bYEAR_b bDEBIT_b
    bCREDIT_b bAS_ABOVE_b bRUPEE_b bNUMBER_b C00 aTELUGU_SIGN_COMBINING_CANDRABINDU_ABOVE
    cCANDRABINDU cANUSVARA cVISARGA cCOMBINING_ANUSVARA_ABOVE bLETTER_A cAA cI cII cU cUU cVOCALIC_R
    dL C0E cE cEE cAI C12 cO cOO cAU cKA cKHA cGA cGHA cNGA cCA cCHA cJA cJHA cNYA cTTA cTTHA cDDA
    cDDHA cNNA cTA cTHA cDA cDHA cNA C2A cPA cPHA cBA cBHA cMA cYA cRA cRRA cLA cLLA cLLLA cVA cSHA
    cSSA cSA cHA C3C bSIGN_NUKTA cAVAGRAHA bVOWEL_SIGN_AA dI dII dU dUU dVOCALIC_R eRR C46 dE dEE
    dAI C4A dO dOO dAU bSIGN_VIRAMA C55 bLENGTH_MARK bAI_c C58 bLETTER_TSA cDZA cRRRA C5D
    cNAKAARA_POLLU C60 cVOCALIC_RR dLL bVOWEL_SIGN_VOCALIC_L eLL C66 bDIGIT_ZERO cONE cTWO cTHREE
    cFOUR cFIVE cSIX cSEVEN cEIGHT cNINE C77 bSIGN_SIDDHAM
    bFRACTION_DIGIT_ZERO_FOR_ODD_POWERS_OF_FOUR dONE_f dTWO_f dTHREE_f dONE_FOR_EVEN_d dTWO_f
    dTHREE_f bSIGN_TUUMU aKANNADA_SIGN_SPACING_CANDRABINDU cb cANUSVARA cVISARGA cSIDDHAM bLETTER_A
    cAA cI cII cU cUU cVOCALIC_R dL C8E cE cEE cAI C92 cO cOO cAU cKA cKHA cGA cGHA cNGA cCA cCHA
    cJA cJHA cNYA cTTA cTTHA cDDA cDDHA cNNA cTA cTHA cDA cDHA cNA CAA cPA cPHA cBA cBHA cMA cYA cRA
    cRRA cLA cLLA CB5 cVA cSHA cSSA cSA cHA CBC bSIGN_NUKTA cAVAGRAHA bVOWEL_SIGN_AA dI dII dU dUU
    dVOCALIC_R eRR CC6 dE dEE dAI CCA dO dOO dAU bSIGN_VIRAMA CD5 bLENGTH_MARK bAI_c CDD
    bLETTER_NAKAARA_POLLU cFA CE0 cVOCALIC_RR dLL bVOWEL_SIGN_VOCALIC_L eLL CE6 bDIGIT_ZERO cONE
    cTWO cTHREE cFOUR cFIVE cSIX cSEVEN cEIGHT cNINE CF1 bSIGN_JIHVAMULIYA cUPADHMANIYA D00
    aMALAYALAM_SIGN_COMBINING_ANUSVARA_ABOVE cCANDRABINDU cANUSVARA cVISARGA bLETTER_VEDIC_ANUSVARA
    cA cAA cI cII cU cUU cVOCALIC_R dL D0E cE cEE cAI D12 cO cOO cAU cKA cKHA cGA cGHA cNGA cCA cCHA
    cJA cJHA cNYA cTTA cTTHA cDDA cDDHA cNNA cTA cTHA cDA cDHA cNA cNNNA cPA cPHA cBA cBHA cMA cYA
    cRA cRRA cLA cLLA cLLLA cVA cSHA cSSA cSA cHA cTTTA bSIGN_VERTICAL_BAR_VIRAMA cCIRCULAR_b
    cAVAGRAHA bVOWEL_SIGN_AA dI dII dU dUU dVOCALIC_R eRR D46 dE dEE dAI D4A dO dOO dAU bSIGN_VIRAMA
    bLETTER_DOT_REPH bSIGN_PARA D54 bLETTER_CHILLU_M dY dLLL bAU_LENGTH_MARK
    bFRACTION_ONE_ONE-HUNDRED-AND-SIXTIETH dFORTIETH cTHREE_EIGHTIETHS cONE_TWENTIETH dTENTH
    cTHREE_TWENTIETHS cONE_FIFTH bLETTER_ARCHAIC_II cVOCALIC_RR dLL bVOWEL_SIGN_VOCALIC_L eLL D66
    bDIGIT_ZERO cONE cTWO cTHREE cFOUR cFIVE cSIX cSEVEN cEIGHT cNINE bNUMBER_TEN cONE_HUNDRED
    dTHOUSAND bFRACTION_ONE_QUARTER dHALF cTHREE_QUARTERS cONE_SIXTEENTH dEIGHTH cTHREE_SIXTEENTHS
    bDATE_MARK bLETTER_CHILLU_NN dN dRR dL dLL dK D81 aSINHALA_SIGN_CANDRABINDU cANUSVARAYA
    cVISARGAYA D85 bLETTER_AYANNA cAAYANNA cAEYANNA cAEEYANNA cIYANNA cIIYANNA cUYANNA cUUYANNA
    cIRUYANNA cIRUUYANNA cILUYANNA cILUUYANNA cEYANNA cEEYANNA cAIYANNA cOYANNA cOOYANNA cAUYANNA
    D9A cALPAPRAANA_KAYANNA cMAHAAPRAANA_b cALPAPRAANA_GAYANNA cMAHAAPRAANA_b cKANTAJA_NAASIKYAYA
    cSANYAKA_GAYANNA cALPAPRAANA_CAYANNA cMAHAAPRAANA_b cALPAPRAANA_JAYANNA cMAHAAPRAANA_b
    cTAALUJA_NAASIKYAYA dSANYOOGA_NAAKSIKYAYA cSANYAKA_JAYANNA cALPAPRAANA_TTAYANNA cMAHAAPRAANA_b
    cALPAPRAANA_DDAYANNA cMAHAAPRAANA_b cMUURDHAJA_NAYANNA cSANYAKA_DDAYANNA cALPAPRAANA_TAYANNA
    cMAHAAPRAANA_b cALPAPRAANA_DAYANNA cMAHAAPRAANA_b cDANTAJA_NAYANNA DB3 cSANYAKA_DAYANNA
    cALPAPRAANA_PAYANNA cMAHAAPRAANA_b cALPAPRAANA_BAYANNA cMAHAAPRAANA_b cMAYANNA cAMBA_BAYANNA
    cYAYANNA cRAYANNA DBD cDANTAJA_LAYANNA DC0 cVAYANNA cTAALUJA_SAYANNA cMUURDHAJA_b cDANTAJA_b
    cHAYANNA cMUURDHAJA_LAYANNA cFAYANNA DCA bSIGN_AL-LAKUNA DCF bVOWEL_SIGN_AELA-PILLA
    dKETTI_AEDA-b dDIGA_c dKETTI_IS-b dDIGA_c dKETTI_PAA-b DD6 dDIGA_c DD8 dGAETTA-b dKOMBUVA
    dDIGA_b dKOMBU_DEKA dKOMBUVA_HAA_AELA-PILLA fDIGA_c fGAYANUKITTA db DE6 bLITH_DIGIT_ZERO dONE
    dTWO dTHREE dFOUR dFIVE dSIX dSEVEN dEIGHT dNINE DF2 bVOWEL_SIGN_DIGA_GAETTA-PILLA eGAYANUKITTA
    bPUNCTUATION_KUNDDALIYA E01 aTHAI_CHARACTER_KO_KAI cKHO_KHAI dKHUAT dKHWAI dKHON dRAKHANG
    cNGO_NGU cCHO_CHAN dCHING dCHANG cSO_SO cCHO_CHOE cYO_YING cDO_CHADA cTO_PATAK cTHO_THAN
    dNANGMONTHO dPHUTHAO cNO_NEN cDO_DEK cTO_TAO cTHO_THUNG dTHAHAN dTHONG cNO_NU cBO_BAIMAI cPO_PLA
    cPHO_PHUNG cFO_FA cPHO_PHAN cFO_FAN cPHO_SAMPHAO cMO_MA cYO_YAK cRO_RUA cRU cLO_LING cLU
    cWO_WAEN cSO_SALA dRUSI dSUA cHO_HIP cLO_CHULA cO_ANG cHO_NOKHUK cPAIYANNOI cSARA_A
    cMAI_HAN-AKAT cSARA_AA dAM dI dII dUE dUEE dU dUU cPHINTHU E3F bCURRENCY_SYMBOL_BAHT
    bCHARACTER_SARA_E dAE dO dAI_MAIMUAN eMAIMALAI cLAKKHANGYAO cMAIYAMOK cMAITAIKHU cMAI_EK dTHO
    dTRI dCHATTAWA cTHANTHAKHAT cNIKHAHIT cYAMAKKAN cFONGMAN bDIGIT_ZERO cONE cTWO cTHREE cFOUR
    cFIVE cSIX cSEVEN cEIGHT cNINE bCHARACTER_ANGKHANKHU cKHOMUT E81 aLAO_LETTER_KO cKHO_SUNG E84
    dTAM E86 cPALI_GHA cNGO cCO cPALI_CHA cSO_TAM E8C cPALI_JHA cNYO cPALI_NYA dTTA dTTHA dDDA dDDHA
    dNNA cDO cTO cTHO_SUNG dTAM cPALI_DHA cNO cBO cPO cPHO_SUNG cFO_TAM cPHO_b cFO_SUNG cPALI_BHA
    cMO cYO cLO_LING EA5 dLOOT EA7 cWO cSANSKRIT_SHA dSSA cSO_SUNG cHO_b cPALI_LLA cO cHO_TAM
    bELLIPSIS bVOWEL_SIGN_A dMAI_KAN dAA dAM dI dII dY dYY dU dUU bSIGN_PALI_VIRAMA
    bVOWEL_SIGN_MAI_KON bSEMIVOWEL_SIGN_LO dNYO EC0 bVOWEL_SIGN_E dEI dO dAY dAI EC6 bKO_LA EC8
    bTONE_MAI_EK dTHO dTI dCATAWA bCANCELLATION_MARK bNIGGAHITA ED0 bDIGIT_ZERO cONE cTWO cTHREE
    cFOUR cFIVE cSIX cSEVEN cEIGHT cNINE EDC bHO_NO cMO bLETTER_KHMU_GO dNYO F00
    aTIBETAN_SYLLABLE_OM bMARK_GTER_YIG_MGO_TRUNCATED_A f-UM_RNAM_BCAD_MA hGTER_TSHEG_b
    cINITIAL_YIG_MGO_MDUN_b cCLOSING_YIG_MGO_SGAB_b cCARET_YIG_MGO_PHUR_SHAD_b cYIG_MGO_TSHEG_c
    cSBRUL_SHAD cBSKUR_YIG_MGO cBKA-_SHOG_c cINTERSYLLABIC_TSHEG cDELIMITER_TSHEG_BSTAR cSHAD
    cNYIS_b cTSHEG_b cNYIS_c cRIN_CHEN_SPUNGS_b cRGYA_GRAM_b cCARET_-DZUD_RTAGS_ME_LONG_CAN
    cGTER_TSHEG bLOGOTYPE_SIGN_CHAD_RTAGS dLHAG_b bASTROLOGICAL_SIGN_SGRA_GCAN_-CHAR_b d-KHYUD_PA
    dSDONG_TSHUGS bSIGN_RDEL_DKAR_GCIG eGNYIS eGSUM dNAG_GCIG eGNYIS dDKAR_RDEL_NAG bDIGIT_ZERO cONE
    cTWO cTHREE cFOUR cFIVE cSIX cSEVEN cEIGHT cNINE cHALF_ONE dTWO dTHREE dFOUR dFIVE dSIX dSEVEN
    dEIGHT dNINE dZERO bMARK_BSDUS_RTAGS cNGAS_BZUNG_NYI_ZLA cCARET_-DZUD_RTAGS_BZHI_MIG_CAN
    cNGAS_BZUNG_SGOR_RTAGS cCHE_MGO cTSA_-PHRU cGUG_RTAGS_GYON eGYAS cANG_KHANG_GYON eGYAS
    bSIGN_YAR_TSHES cMAR_b bLETTER_KA cKHA cGA cGHA cNGA cCA cCHA cJA F49 cNYA cTTA cTTHA cDDA cDDHA
    cNNA cTA cTHA cDA cDHA cNA cPA cPHA cBA cBHA cMA cTSA cTSHA cDZA cDZHA cWA cZHA cZA c-A cYA cRA
    cLA cSHA cSSA cSA cHA cA cKSSA cFIXED-FORM_RA cKKA cRRA F71 bVOWEL_SIGN_AA dI dII dU dUU
    dVOCALIC_R eRR eL eLL dE dEE dO dOO bSIGN_RJES_SU_NGA_RO cRNAM_BCAD bVOWEL_SIGN_REVERSED_I eII
    bSIGN_NYI_ZLA_NAA_DA cSNA_LDAN bMARK_HALANTA cPALUTA bSIGN_LCI_RTAGS cYANG_b cLCE_TSA_CAN
    cMCHU_b cGRU_CAN_RGYINGS dMED_b cINVERTED_MCHU_CAN bSUBJOINED_SIGN_LCE_TSA_b dMCHU_b dINVERTED_c
    cLETTER_KA dKHA dGA dGHA dNGA dCA dCHA dJA F99 dNYA dTTA dTTHA dDDA dDDHA dNNA dTA dTHA dDA dDHA
    dNA dPA dPHA dBA dBHA dMA dTSA dTSHA dDZA dDZHA dWA dZHA dZA d-A dYA dRA dLA dSHA dSSA dSA dHA
    dA dKSSA dFIXED-FORM_WA fYA fRA FBE bKU_RU_KHA dKHA_BZHI_MIG_CAN bCANTILLATION_SIGN_HEAVY_BEAT
    dLIGHT_b dCANG_TE-U dSBUB_-CHAL bSYMBOL_DRIL_BU cRDO_RJE cPADMA_GDAN cRDO_RJE_RGYA_GRAM cPHUR_PA
    cNOR_BU dBU_NYIS_-KHYIL eGSUM_c eBZHI_c FCE bSIGN_RDEL_NAG_RDEL_DKAR eGSUM
    bMARK_BSKA-_SHOG_GI_MGO_RGYAN cMNYAM_YIG_d cNYIS_TSHEG cINITIAL_BRDA_RNYING_YIG_MGO_MDUN_MA
    cCLOSING_BRDA_RNYING_YIG_MGO_SGAB_b aRIGHT-FACING_SVASTI_SIGN aLEFT-d
    aRIGHT-FACING_SVASTI_SIGN_WITH_DOTS aLEFT-f aTIBETAN_MARK_LEADING_MCHAN_RTAGS cTRAILING_c 1000
    aMYANMAR_LETTER_KA cKHA cGA cGHA cNGA cCA cCHA cJA cJHA cNYA cNNYA cTTA cTTHA cDDA cDDHA cNNA
    cTA cTHA cDA cDHA cNA cPA cPHA cBA cBHA cMA cYA cRA cLA cWA cSA cHA cLLA cA cSHAN_b cI cII cU
    cUU cE cMON_b cO cAU bVOWEL_SIGN_TALL_AA db dI dII dU dUU dE dAI dMON_II eO dE_ABOVE
    bSIGN_ANUSVARA cDOT_BELOW cVISARGA cVIRAMA cASAT bCONSONANT_SIGN_MEDIAL_YA eRA eWA eHA
    bLETTER_GREAT_SA bDIGIT_ZERO cONE cTWO cTHREE cFOUR cFIVE cSIX cSEVEN cEIGHT cNINE
    bSIGN_LITTLE_SECTION cb bSYMBOL_LOCATIVE cCOMPLETED cAFOREMENTIONED cGENITIVE bLETTER_SHA cSSA
    cVOCALIC_R dRR dL dLL bVOWEL_SIGN_VOCALIC_R eRR eL eLL bLETTER_MON_NGA dJHA dBBA dBBE
    bCONSONANT_SIGN_MON_MEDIAL_NA fMA fLA bLETTER_SGAW_KAREN_SHA bVOWEL_SIGN_SGAW_KAREN_EU
    bTONE_MARK_SGAW_KAREN_HATHI fKE_PHO bLETTER_WESTERN_PWO_KAREN_THA fPWA
    bVOWEL_SIGN_WESTERN_PWO_KAREN_EU gUE bSIGN_WESTERN_PWO_KAREN_TONE-1 g2 g3 g4 g5
    bLETTER_EASTERN_PWO_KAREN_NNA fYWA fGHWA bVOWEL_SIGN_GEBA_KAREN_I dKAYAH_OE eU eEE
    bLETTER_SHAN_KA dKHA dGA dCA dZA dNYA dDA dNA dPHA dFA dBA dTHA dHA
    bCONSONANT_SIGN_SHAN_MEDIAL_WA bVOWEL_SIGN_SHAN_AA eE eE_ABOVE eFINAL_Y bSIGN_SHAN_TONE-2 e3 e5
    e6 dCOUNCIL_TONE-2 f3 eEMPHATIC_TONE bLETTER_RUMAI_PALAUNG_FA bSIGN_RUMAI_PALAUNG_TONE-5
    bSHAN_DIGIT_ZERO dONE dTWO dTHREE dFOUR dFIVE dSIX dSEVEN dEIGHT dNINE bSIGN_KHAMTI_TONE-1 e3
    bVOWEL_SIGN_AITON_A eAI bSYMBOL_SHAN_ONE dEXCLAMATION aGEORGIAN_CAPITAL_LETTER_AN dBAN dGAN dDON
    dEN dVIN dZEN dTAN dIN dKAN dLAS dMAN dNAR dON dPAR dZHAR dRAE dSAN dTAR dUN dPHAR dKHAR dGHAN
    dQAR dSHIN dCHIN dCAN dJIL dCIL dCHAR dXAN dJHAN dHAE dHE dHIE dWE dHAR dHOE 10C7 dYN 10CD dAEN
    10D0 bLETTER_AN cBAN cGAN cDON cEN cVIN cZEN cTAN cIN cKAN cLAS cMAN cNAR cON cPAR cZHAR cRAE
    cSAN cTAR cUN cPHAR cKHAR cGHAN cQAR cSHIN cCHIN cCAN cJIL cCIL cCHAR cXAN cJHAN cHAE cHE cHIE
    cWE cHAR cHOE cFI cYN cELIFI cTURNED_GAN cAIN bPARAGRAPH_SEPARATOR aMODIFIER_LETTER_GEORGIAN_NAR
    aGEORGIAN_LETTER_AEN cHARD_SIGN cLABIAL_b aHANGUL_CHOSEONG_KIYEOK cSSANGKIYEOK cNIEUN cTIKEUT
    cSSANGTIKEUT cRIEUL cMIEUM cPIEUP cSSANGPIEUP cSIOS cSSANGSIOS cIEUNG cCIEUC cSSANGCIEUC
    cCHIEUCH cKHIEUKH cTHIEUTH cPHIEUPH cHIEUH cNIEUN-KIYEOK cSSANGNIEUN cNIEUN-TIKEUT dPIEUP
    cTIKEUT-KIYEOK cRIEUL-NIEUN cSSANGRIEUL cRIEUL-HIEUH cKAPYEOUNRIEUL cMIEUM-PIEUP cKAPYEOUNMIEUM
    cPIEUP-KIYEOK dNIEUN dTIKEUT dSIOS dSIOS-KIYEOK eTIKEUT ePIEUP dSSANGSIOS dSIOS-CIEUC db
    dCHIEUCH dTHIEUTH dPHIEUPH cKAPYEOUNPIEUP cKAPYEOUNSSANGPIEUP cSIOS-KIYEOK dNIEUN dTIKEUT dRIEUL
    dMIEUM dPIEUP dPIEUP-KIYEOK dSSANGSIOS dIEUNG dCIEUC dCHIEUCH dKHIEUKH dTHIEUTH dPHIEUPH dHIEUH
    cCHITUEUMSIOS cCHITUEUMSSANGSIOS cCEONGCHIEUMSIOS cCEONGCHIEUMSSANGSIOS cPANSIOS cIEUNG-KIYEOK
    dTIKEUT dMIEUM dPIEUP dSIOS dPANSIOS cSSANGIEUNG cIEUNG-CIEUC dCHIEUCH dTHIEUTH dPHIEUPH
    cYESIEUNG cCIEUC-IEUNG cCHITUEUMCIEUC cCHITUEUMSSANGCIEUC cCEONGCHIEUMCIEUC
    cCEONGCHIEUMSSANGCIEUC cCHIEUCH-KHIEUKH dHIEUH cCHITUEUMCHIEUCH cCEONGCHIEUMCHIEUCH
    cPHIEUPH-PIEUP cKAPYEOUNPHIEUPH cSSANGHIEUH cYEORINHIEUH cKIYEOK-TIKEUT cNIEUN-SIOS dCIEUC
    dHIEUH cTIKEUT-RIEUL cFILLER bJUNGSEONG_b cA cAE cYA cYAE cEO cE cYEO cYE cO cWA cWAE cOE cYO cU
    cWEO cWE cWI cYU cEU cYI cI cA-O dU cYA-O dYO cEO-O dU dEU cYEO-O dU cO-EO dE dYE dO dU cYO-YA
    dYAE dYEO dO dI cU-A dAE dEO-EU dYE dU cYU-A dEO dE dYEO dYE dU dI cEU-U dEU cYI-U cI-A dYA dO
    dU dEU dARAEA cb cARAEA-EO dU dI cSSANGARAEA cA-EU cYA-U cYEO-YA cO-b dYAE bJONGSEONG_KIYEOK
    cSSANGKIYEOK cKIYEOK-SIOS cNIEUN cNIEUN-CIEUC dHIEUH cTIKEUT cRIEUL cRIEUL-KIYEOK dMIEUM dPIEUP
    dSIOS dTHIEUTH dPHIEUPH dHIEUH cMIEUM cPIEUP cPIEUP-SIOS cb cSSANGSIOS cIEUNG cCIEUC cCHIEUCH
    cKHIEUKH cTHIEUTH cPHIEUPH cHIEUH cKIYEOK-RIEUL dSIOS-KIYEOK cNIEUN-b dTIKEUT dSIOS dPANSIOS
    dTHIEUTH cTIKEUT-KIYEOK dRIEUL cRIEUL-KIYEOK-SIOS dNIEUN dTIKEUT dTIKEUT-HIEUH cSSANGRIEUL
    cRIEUL-MIEUM-KIYEOK eSIOS dPIEUP-b eHIEUH dKAPYEOUNPIEUP dSSANGSIOS dPANSIOS dKHIEUKH
    dYEORINHIEUH cMIEUM-KIYEOK dRIEUL dPIEUP dSIOS dSSANGSIOS dPANSIOS dCHIEUCH dHIEUH
    cKAPYEOUNMIEUM cPIEUP-RIEUL dPHIEUPH dHIEUH cKAPYEOUNPIEUP cSIOS-KIYEOK dTIKEUT dRIEUL dPIEUP
    cPANSIOS cIEUNG-KIYEOK dSSANGKIYEOK cSSANGIEUNG cIEUNG-KHIEUKH cYESIEUNG cYESIEUNG-SIOS dPANSIOS
    cPHIEUPH-PIEUP cKAPYEOUNPHIEUPH cHIEUH-NIEUN dRIEUL dMIEUM dPIEUP cYEORINHIEUH cKIYEOK-NIEUN
    dPIEUP dCHIEUCH dKHIEUKH dHIEUH cSSANGNIEUN aETHIOPIC_SYLLABLE_HA cHU cHI cHAA cHEE cHE cHO cHOA
    cLA cLU cLI cLAA cLEE cLE cLO cLWA cHHA cHHU cHHI cHHAA cHHEE cHHE cHHO cHHWA cMA cMU cMI cMAA
    cMEE cME cMO cMWA cSZA cSZU cSZI cSZAA cSZEE cSZE cSZO cSZWA cRA cRU cRI cRAA cREE cRE cRO cRWA
    cSA cSU cSI cSAA cSEE cSE cSO cSWA cSHA cSHU cSHI cSHAA cSHEE cSHE cSHO cSHWA cQA cQU cQI cQAA
    cQEE cQE cQO cQOA cQWA 124A cQWI cQWAA cQWEE cQWE 1250 cQHA cQHU cQHI cQHAA cQHEE cQHE cQHO 1258
    cQHWA 125A cQHWI cQHWAA cQHWEE cQHWE 1260 cBA cBU cBI cBAA cBEE cBE cBO cBWA cVA cVU cVI cVAA
    cVEE cVE cVO cVWA cTA cTU cTI cTAA cTEE cTE cTO cTWA cCA cCU cCI cCAA cCEE cCE cCO cCWA cXA cXU
    cXI cXAA cXEE cXE cXO cXOA cXWA 128A cXWI cXWAA cXWEE cXWE 1290 cNA cNU cNI cNAA cNEE cNE cNO
    cNWA cNYA cNYU cNYI cNYAA cNYEE cNYE cNYO cNYWA cGLOTTAL_A dU dI dAA dEE dE dO dWA cKA cKU cKI
    cKAA cKEE cKE cKO cKOA cKWA 12B2 cKWI cKWAA cKWEE cKWE 12B8 cKXA cKXU cKXI cKXAA cKXEE cKXE cKXO
    12C0 cKXWA 12C2 cKXWI cKXWAA cKXWEE cKXWE 12C8 cWA cWU cWI cWAA cWEE cWE cWO cWOA cPHARYNGEAL_A
    dU dI dAA dEE dE dO 12D8 cZA cZU cZI cZAA cZEE cZE cZO cZWA cZHA cZHU cZHI cZHAA cZHEE cZHE cZHO
    cZHWA cYA cYU cYI cYAA cYEE cYE cYO cYOA cDA cDU cDI cDAA cDEE cDE cDO cDWA cDDA cDDU cDDI cDDAA
    cDDEE cDDE cDDO cDDWA cJA cJU cJI cJAA cJEE cJE cJO cJWA cGA cGU cGI cGAA cGEE cGE cGO cGOA cGWA
    1312 cGWI cGWAA cGWEE cGWE 1318 cGGA cGGU cGGI cGGAA cGGEE cGGE cGGO cGGWAA cTHA cTHU cTHI cTHAA
    cTHEE cTHE cTHO cTHWA cCHA cCHU cCHI cCHAA cCHEE cCHE cCHO cCHWA cPHA cPHU cPHI cPHAA cPHEE cPHE
    cPHO cPHWA cTSA cTSU cTSI cTSAA cTSEE cTSE cTSO cTSWA cTZA cTZU cTZI cTZAA cTZEE cTZE cTZO cTZOA
    cFA cFU cFI cFAA cFEE cFE cFO cFWA cPA cPU cPI cPAA cPEE cPE cPO cPWA cRYA cMYA cFYA 135D
    bCOMBINING_GEMINATION_AND_VOWEL_LENGTH_MARK cd cGEMINATION_b bSECTION_b bWORDSPACE bFULL_STOP
    bCOMMA bSEMICOLON bCOLON bPREFACE_b bQUESTION_MARK bPARAGRAPH_SEPARATOR bDIGIT_ONE cTWO cTHREE
    cFOUR cFIVE cSIX cSEVEN cEIGHT cNINE bNUMBER_TEN cTWENTY cTHIRTY cFORTY cFIFTY cSIXTY cSEVENTY
    cEIGHTY cNINETY cHUNDRED cTEN_THOUSAND 1380 bSYLLABLE_SEBATBEIT_MWA cMWI cMWEE cMWE
    cSEBATBEIT_BWA cBWI cBWEE cBWE cSEBATBEIT_FWA cFWI cFWEE cFWE cSEBATBEIT_PWA cPWI cPWEE cPWE
    bTONAL_MARK_YIZET dDERET dRIKRIK dSHORT_b dDIFAT dKENAT dCHIRET dHIDET dDERET-b dKURT 13A0
    aCHEROKEE_LETTER_A cE cI cO cU cV cGA cKA cGE cGI cGO cGU cGV cHA cHE cHI cHO cHU cHV cLA cLE
    cLI cLO cLU cLV cMA cME cMI cMO cMU cNA cHNA cNAH cNE cNI cNO cNU cNV cQUA cQUE cQUI cQUO cQUU
    cQUV cSA cS cSE cSI cSO cSU cSV cDA cTA cDE cTE cDI cTI cDO cDU cDV cDLA cTLA cTLE cTLI cTLO
    cTLU cTLV cTSA cTSE cTSI cTSO cTSU cTSV cWA cWE cWI cWO cWU cWV cYA cYE cYI cYO cYU cYV cMV 13F8
    bSMALL_LETTER_YE dYI dYO dYU dYV dMV 1400 aCANADIAN_SYLLABICS_HYPHEN cE cAAI cI cII cO cOO
    cY-CREE_b cCARRIER_EE dI cA cAA cWE cWEST-CREE_b cWI cWEST-CREE_b cWII cWEST-CREE_b cWO
    cWEST-CREE_b cWOO cWEST-CREE_b cNASKAPI_b cWA cWEST-CREE_b cWAA cWEST-CREE_b cNASKAPI_b cAI
    cY-CREE_W cGLOTTAL_STOP cFINAL_ACUTE dGRAVE dBOTTOM_HALF_RING dTOP_c dRIGHT_c db dDOUBLE_ACUTE
    eSHORT_VERTICAL_STROKES dMIDDLE_DOT dSHORT_HORIZONTAL_STROKE dPLUS dDOWN_TACK cEN cIN cON cAN
    cPE cPAAI cPI cPII cPO cPOO cY-CREE_b cCARRIER_HEE dHI cPA cPAA cPWE cWEST-CREE_b cPWI
    cWEST-CREE_b cPWII cWEST-CREE_b cPWO cWEST-CREE_b cPWOO cWEST-CREE_b cPWA cWEST-CREE_b cPWAA
    cWEST-CREE_b cY-c cP cWEST-CREE_b cCARRIER_H cTE cTAAI cTI cTII cTO cTOO cY-CREE_b cCARRIER_DEE
    dDI cTA cTAA cTWE cWEST-CREE_b cTWI cWEST-CREE_b cTWII cWEST-CREE_b cTWO cWEST-CREE_b cTWOO
    cWEST-CREE_b cTWA cWEST-CREE_b cTWAA cWEST-CREE_b cNASKAPI_b cT cTTE cTTI cTTO cTTA cKE cKAAI
    cKI cKII cKO cKOO cY-CREE_b cKA cKAA cKWE cWEST-CREE_b cKWI cWEST-CREE_b cKWII cWEST-CREE_b cKWO
    cWEST-CREE_b cKWOO cWEST-CREE_b cKWA cWEST-CREE_b cKWAA cWEST-CREE_b cNASKAPI_b cK cKW
    cSOUTH-SLAVEY_KEH eKIH eKOH eKAH cCE cCAAI cCI cCII cCO cCOO cY-CREE_b cCA cCAA cCWE
    cWEST-CREE_b cCWI cWEST-CREE_b cCWII cWEST-CREE_b cCWO cWEST-CREE_b cCWOO cWEST-CREE_b cCWA
    cWEST-CREE_b cCWAA cWEST-CREE_b cNASKAPI_b cC cSAYISI_TH cME cMAAI cMI cMII cMO cMOO cY-CREE_b
    cMA cMAA cMWE cWEST-CREE_b cMWI cWEST-CREE_b cMWII cWEST-CREE_b cMWO cWEST-CREE_b cMWOO
    cWEST-CREE_b cMWA cWEST-CREE_b cMWAA cWEST-CREE_b cNASKAPI_b cM cWEST-CREE_b cMH cATHAPASCAN_M
    cSAYISI_b cNE cNAAI cNI cNII cNO cNOO cY-CREE_b cNA cNAA cNWE cWEST-CREE_b cNWA cWEST-CREE_b
    cNWAA cWEST-CREE_b cNASKAPI_b cN cCARRIER_NG cNH cLE cLAAI cLI cLII cLO cLOO cY-CREE_b cLA cLAA
    cLWE cWEST-CREE_b cLWI cWEST-CREE_b cLWII cWEST-CREE_b cLWO cWEST-CREE_b cLWOO cWEST-CREE_b cLWA
    cWEST-CREE_b cLWAA cWEST-CREE_b cL cWEST-CREE_b cMEDIAL_b cSE cSAAI cSI cSII cSO cSOO cY-CREE_b
    cSA cSAA cSWE cWEST-CREE_b cSWI cWEST-CREE_b cSWII cWEST-CREE_b cSWO cWEST-CREE_b cSWOO
    cWEST-CREE_b cSWA cWEST-CREE_b cSWAA cWEST-CREE_b cNASKAPI_b cS cATHAPASCAN_b cSW cBLACKFOOT_S
    cMOOSE-CREE_SK cNASKAPI_SKW dS-W dSPWA dSTWA dSKWA dSCWA cSHE cSHI cSHII cSHO cSHOO cSHA cSHAA
    cSHWE cWEST-CREE_b cSHWI cWEST-CREE_b cSHWII cWEST-CREE_b cSHWO cWEST-CREE_b cSHWOO cWEST-CREE_b
    cSHWA cWEST-CREE_b cSHWAA cWEST-CREE_b cSH cYE cYAAI cYI cYII cYO cYOO cY-CREE_b cYA cYAA cYWE
    cWEST-CREE_b cYWI cWEST-CREE_b cYWII cWEST-CREE_b cYWO cWEST-CREE_b cYWOO cWEST-CREE_b cYWA
    cWEST-CREE_b cYWAA cWEST-CREE_b cNASKAPI_b cY cBIBLE-CREE_b cWEST-c cSAYISI_YI cRE cR-CREE_b
    cWEST-CREE_LE cRAAI cRI cRII cRO cROO cWEST-CREE_LO cRA cRAA cWEST-CREE_LA cRWAA cWEST-CREE_b cR
    cWEST-CREE_b cMEDIAL_b cFE cFAAI cFI cFII cFO cFOO cFA cFAA cFWAA cWEST-CREE_b cF cTHE cN-CREE_b
    cTHI cN-CREE_b cTHII cN-CREE_b cTHO cTHOO cTHA cTHAA cTHWAA cWEST-CREE_b cTH cTTHE cTTHI cTTHO
    cTTHA cTTH cTYE cTYI cTYO cTYA cNUNAVIK_HE dHI dHII dHO dHOO dHA dHAA dH cNUNAVUT_b cHK cQAAI
    cQI cQII cQO cQOO cQA cQAA cQ cTLHE cTLHI cTLHO cTLHA cWEST-CREE_RE eRI eRO eRA cNGAAI cNGI
    cNGII cNGO cNGOO cNGA cNGAA cNG cNNG cSAYISI_SHE dSHI dSHO dSHA cWOODS-CREE_THE eTHI eTHO eTHA
    eTH cLHI cLHII cLHO cLHOO cLHA cLHAA cLH cTH-CREE_THE eTHI eTHII eTHO eTHOO eTHA eTHAA eTH
    cAIVILIK_B cBLACKFOOT_E dI dO dA dWE dWI dWO dWA dNE dNI dNO dNA dKE dKI dKO dKA cSAYISI_HE dHI
    dHO dHA cCARRIER_GHU dGHO dGHE dGHEE dGHI dGHA dRU dRO dRE dREE dRI dRA dWU dWO dWE dWEE dWI dWA
    dHWU dHWO dHWE dHWEE dHWI dHWA dTHU dTHO dTHE dTHEE dTHI dTHA dTTU dTTO dTTE dTTEE dTTI dTTA dPU
    dPO dPE dPEE dPI dPA dP dGU dGO dGE dGEE dGI dGA dKHU dKHO dKHE dKHEE dKHI dKHA dKKU dKKO dKKE
    dKKEE dKKI dKKA dKK dNU dNO dNE dNEE dNI dNA dMU dMO dME dMEE dMI dMA dYU dYO dYE dYEE dYI dYA
    dJU cSAYISI_b cCARRIER_JO dJE dJEE dJI cSAYISI_b cCARRIER_JA dJJU dJJO dJJE dJJEE dJJI dJJA dLU
    dLO dLE dLEE dLI dLA dDLU dDLO dDLE dDLEE dDLI dDLA dLHU dLHO dLHE dLHEE dLHI dLHA dTLHU dTLHO
    dTLHE dTLHEE dTLHI dTLHA dTLU dTLO dTLE dTLEE dTLI dTLA dZU dZO dZE dZEE dZI dZA dZ dINITIAL_b
    dDZU dDZO dDZE dDZEE dDZI dDZA dSU dSO dSE dSEE dSI dSA dSHU dSHO dSHE dSHEE dSHI dSHA dSH dTSU
    dTSO dTSE dTSEE dTSI dTSA dCHU dCHO dCHE dCHEE dCHI dCHA dTTSU dTTSO dTTSE dTTSEE dTTSI dTTSA
    cCHI_SIGN cFULL_STOP cQAI cNGAI cNNGI cNNGII cNNGO cNNGOO cNNGA cNNGAA cWOODS-CREE_THWEE eTHWI
    eTHWII eTHWO eTHWOO eTHWA eTHWAA eFINAL_TH cBLACKFOOT_W aOGHAM_SPACE_MARK bLETTER_BEITH cLUIS
    cFEARN cSAIL cNION cUATH cDAIR cTINNE cCOLL cCEIRT cMUIN cGORT cNGEADAL cSTRAIF cRUIS cAILM cONN
    cUR cEADHADH cIODHADH cEABHADH cOR cUILLEANN cIFIN cEAMHANCHOLL cPEITH bFEATHER_MARK bREVERSED_c
    16A0 aRUNIC_LETTER_FEHU_FEOH_FE_F cV cURUZ_UR_U cYR cY cW cTHURISAZ_THURS_THORN cETH cANSUZ_A
    cOS_O cAC_A cAESC cLONG-BRANCH-OSS_O cSHORT-TWIG-c cb cOE cON cRAIDO_RAD_REID_R cKAUNA cCEN
    cKAUN_K cG cENG cGEBO_GYFU_G cGAR cWUNJO_WYNN_W cHAGLAZ_H cHAEGL_b cLONG-BRANCH-HAGALL_b
    cSHORT-TWIG-c cNAUDIZ_NYD_NAUD_N cSHORT-TWIG-c cDOTTED-b cISAZ_IS_ISS_I cE cJERAN_J cGER
    cLONG-BRANCH-AR_AE cSHORT-TWIG-AR_A cIWAZ_EOH cPERTHO_PEORTH_P cALGIZ_EOLHX cSOWILO_S
    cSIGEL_LONG-BRANCH-SOL_b cSHORT-TWIG-c cC cZ cTIWAZ_TIR_TYR_T cSHORT-TWIG-c cD
    cBERKANAN_BEORC_BJARKAN_B cSHORT-TWIG-c cDOTTED-P cOPEN-b cEHWAZ_EH_E cMANNAZ_MAN_M
    cLONG-BRANCH-MADR_b cSHORT-TWIG-c cLAUKAZ_LAGU_LOGR_L cDOTTED-b cINGWAZ cING cDAGAZ_DAEG_D
    cOTHALAN_ETHEL_O cEAR cIOR cCWEORTH cCALC cCEALC cSTAN cLONG-BRANCH-YR cSHORT-TWIG-b
    cICELANDIC-b cQ cX bSINGLE_PUNCTUATION bMULTIPLE_b bCROSS_b bARLAUG_SYMBOL bTVIMADUR_b
    bBELGTHOR_b bLETTER_K cSH cOO cFRANKS_CASKET_OS eIS eEH eAC eAESC 1700 aTAGALOG_LETTER_A cI cU
    cKA cGA cNGA cTA cDA cNA cPA cBA cMA cYA cRA cLA cWA cSA cHA bVOWEL_SIGN_I dU bSIGN_VIRAMA
    cPAMUDPOD 171F bLETTER_ARCHAIC_RA aHANUNOO_LETTER_A cI cU cKA cGA cNGA cTA cDA cNA cPA cBA cMA
    cYA cRA cLA cWA cSA cHA bVOWEL_SIGN_I dU bSIGN_PAMUDPOD aPHILIPPINE_SINGLE_PUNCTUATION bDOUBLE_b
    1740 aBUHID_LETTER_A cI cU cKA cGA cNGA cTA cDA cNA cPA cBA cMA cYA cRA cLA cWA cSA cHA
    bVOWEL_SIGN_I dU 1760 aTAGBANWA_LETTER_A cI cU cKA cGA cNGA cTA cDA cNA cPA cBA cMA cYA 176E cLA
    cWA cSA 1772 bVOWEL_SIGN_I dU 1780 aKHMER_LETTER_KA cKHA cKO cKHO cNGO cCA cCHA cCO cCHO cNYO
    cDA cTTHA cDO cTTHO cNNO cTA cTHA cTO cTHO cNO cBA cPHA cPO cPHO cMO cYO cRO cLO cVO cSHA cSSO
    cSA cHA cLA cQA bINDEPENDENT_VOWEL_QAQ dQAA dQI dQII dQU dQUK dQUU dQUUV dRY dRYY dLY dLYY dQE
    dQAI dQOO_TYPE_ONE fTWO dQAU bVOWEL_INHERENT_AQ dAA cSIGN_b dI dII dY dYY dU dUU dUA dOE dYA dIE
    dE dAE dAI dOO dAU bSIGN_NIKAHIT cREAHMUK cYUUKALEAPINTU cMUUSIKATOAN cTRIISAP cBANTOC cROBAT
    cTOANDAKHIAT cKAKABAT cAHSDA cSAMYOK_SANNYA cVIRIAM cCOENG cBATHAMASAT cKHAN cBARIYOOSAN
    cCAMNUC_PII_KUUH cLEK_TOO cBEYYAL cPHNAEK_MUAN cKOOMUUT bCURRENCY_SYMBOL_RIEL
    bSIGN_AVAKRAHASANYA cATTHACAN 17E0 bDIGIT_ZERO cONE cTWO cTHREE cFOUR cFIVE cSIX cSEVEN cEIGHT
    cNINE 17F0 bSYMBOL_LEK_ATTAK_SON eMUOY ePII eBEI eBUON ePRAM ePRAM-MUOY fPII fBEI fBUON 1800
    aMONGOLIAN_BIRGA bELLIPSIS bCOMMA bFULL_STOP bCOLON bFOUR_DOTS bTODO_SOFT_HYPHEN
    bSIBE_SYLLABLE_BOUNDARY_MARKER bMANCHU_COMMA cFULL_STOP bNIRUGU bFREE_VARIATION_SELECTOR_ONE
    eTWO eTHREE bVOWEL_SEPARATOR bFREE_VARIATION_SELECTOR_FOUR bDIGIT_ZERO cONE cTWO cTHREE cFOUR
    cFIVE cSIX cSEVEN cEIGHT cNINE 1820 bLETTER_A cE cI cO cU cOE cUE cEE cNA cANG cBA cPA cQA cGA
    cMA cLA cSA cSHA cTA cDA cCHA cJA cYA cRA cWA cFA cKA cKHA cTSA cZA cHAA cZRA cLHA cZHI cCHI
    cTODO_LONG_VOWEL_SIGN dE dI dO dU dOE dUE dANG dBA dPA dQA dGA dMA dTA dDA dCHA dJA dTSA dYA dWA
    dKA dGAA dHAA dJIA dNIA dDZA cSIBE_E dI dIY dUE dU dANG dKA dGA dHA dPA dSHA dTA dDA dJA dFA
    dGAA dHAA dTSA dZA dRAA dCHA dZHA cMANCHU_I dKA dRA dFA dZHA cCHA_WITH_TWO_DOTS 1880
    cALI_GALI_ANUSVARA_ONE eVISARGA_b eDAMARU eUBADAMA eINVERTED_b eBALUDA eTHREE_b eA eI eKA eNGA
    eCA eTTA eTTHA eDDA eNNA eTA eDA ePA ePHA eSSA eZHA eZA eAH cTODO_ALI_GALI_TA fZHA
    cMANCHU_ALI_GALI_GHA fNGA fCA fJHA fTTA fDDHA fTA fDHA fSSA fCYA fZHA fZA cALI_GALI_HALF_U fYA
    cMANCHU_ALI_GALI_BHA cALI_GALI_DAGALGA cMANCHU_ALI_GALI_LHA 18B0 aCANADIAN_SYLLABICS_OY cAY cAAY
    cWAY cPOY cPAY cPWOY cTAY cKAY cKWAY cMAY cNOY cNAY cLAY cSOY cSAY cSHOY cSHAY cSHWOY cYOY cYAY
    cRAY cNWI cOJIBWAY_b cNWII cOJIBWAY_b cNWO cOJIBWAY_b cNWOO cOJIBWAY_b cRWEE cRWI cRWII cRWO
    cRWOO cRWA cOJIBWAY_P dT dK dC dM dN dS dSH cEASTERN_W cWESTERN_b cFINAL_SMALL_RING dRAISED_DOT
    cR-CREE_RWE cWEST-CREE_LOO eLAA cTHWE cTHWA cTTHWE cTTHOO cTTHAA cTLHWE cTLHOO cSAYISI_SHWE
    dSHOO dHOO cCARRIER_GWU dDENE_GEE dGAA dGWA cSAYISI_JUU cCARRIER_JWA cBEAVER_DENE_L eR
    cCARRIER_DENTAL_S 1900 aLIMBU_VOWEL-CARRIER_LETTER bLETTER_KA cKHA cGA cGHA cNGA cCA cCHA cJA
    cJHA cYAN cTA cTHA cDA cDHA cNA cPA cPHA cBA cBHA cMA cYA cRA cLA cWA cSHA cSSA cSA cHA cGYAN
    cTRA 1920 bVOWEL_SIGN_A dI dU dEE dAI dOO dAU dE dO bSUBJOINED_LETTER_YA dRA dWA 1930
    bSMALL_LETTER_KA dNGA dANUSVARA dTA dNA dPA dMA dRA dLA bSIGN_MUKPHRENG cKEMPHRENG cSA-I 1940
    cLOO 1944 bEXCLAMATION_MARK bQUESTION_b bDIGIT_ZERO cONE cTWO cTHREE cFOUR cFIVE cSIX cSEVEN
    cEIGHT cNINE aTAI_LE_LETTER_KA dXA dNGA dTSA dSA dYA dTA dTHA dLA dPA dPHA dMA dFA dVA dHA dQA
    dKHA dTSHA dNA dA dI dEE dEH dU dOO dO dUE dE dAUE dAI 1970 dTONE-2 e3 e4 e5 e6 1980
    aNEW_TAI_LUE_LETTER_HIGH_QA eLOW_b eHIGH_KA fXA fNGA eLOW_KA fXA fNGA eHIGH_TSA fSA fYA eLOW_TSA
    fSA fYA eHIGH_TA fTHA fNA eLOW_TA fTHA fNA eHIGH_PA fPHA fMA eLOW_PA fPHA fMA eHIGH_FA fVA fLA
    eLOW_FA fVA fLA eHIGH_HA fDA fBA eLOW_HA fDA fBA eHIGH_KVA fXVA eLOW_KVA fXVA eHIGH_SUA eLOW_b
    19B0 dVOWEL_SIGN_VOWEL_SHORTENER fAA fII fU fUU fE fAE fO fOA fUE fAY fAAY fUY fOY fOAY fUEY fIY
    dLETTER_FINAL_V fNG fN fM fK fD fB dTONE_MARK-1 f2 19D0 dDIGIT_ZERO eONE eTWO eTHREE eFOUR eFIVE
    eSIX eSEVEN eEIGHT eNINE dTHAM_DIGIT_ONE 19DE dSIGN_LAE eLAEV aKHMER_SYMBOL_PATHAMASAT
    cMUOY_KOET cPII_b cBEI_b cBUON_b cPRAM_b cPRAM-MUOY_b dPII_b dBEI_b dBUON_b cDAP_b cDAP-MUOY_b
    dPII_b dBEI_b dBUON_b dPRAM_b cTUTEYASAT cMUOY_ROC cPII_b cBEI_b cBUON_b cPRAM_b cPRAM-MUOY_b
    dPII_b dBEI_b dBUON_b cDAP_b cDAP-MUOY_b dPII_b dBEI_b dBUON_b dPRAM_b aBUGINESE_LETTER_KA cGA
    cNGA cNGKA cPA cBA cMA cMPA cTA cDA cNA cNRA cCA cJA cNYA cNYCA cYA cRA cLA cVA cSA cA cHA
    bVOWEL_SIGN_I dU dE dO dAE 1A1E bPALLAWA bEND_OF_SECTION aTAI_THAM_LETTER_HIGH_KA eKHA eKXA
    dLOW_KA eKXA eKHA dNGA dHIGH_CA eCHA dLOW_CA eSA eCHA dNYA dRATA dHIGH_RATHA dDA dLOW_RATHA
    dRANA dHIGH_TA eTHA dLOW_TA eTHA dNA dBA dHIGH_PA ePHA eFA dLOW_PA eFA ePHA dMA dLOW_YA dHIGH_b
    dRA dRUE dLA dLUE dWA dHIGH_SHA eSSA eSA eHA dLLA dA dLOW_HA dI dII dU dUU dEE dOO dLAE
    dGREAT_SA cCONSONANT_SIGN_MEDIAL_RA fLA eLA_TANG_LAI cSIGN_MAI_KANG_b cCONSONANT_SIGN_FINAL_NGA
    eLOW_PA eHIGH_RATHA_OR_c eMA eBA eSA 1A60 cSIGN_SAKOT cVOWEL_SIGN_A eMAI_SAT eAA eTALL_b eI eII
    eUE eUUE eU eUU eO eOA_BELOW eOY eE eAE eOO eAI eTHAM_b eOA_ABOVE cSIGN_MAI_KANG dTONE-1 e2
    dKHUEN_TONE-3 f4 f5 dRA_HAAM dMAI_SAM dKHUEN-LUE_KARAN 1A7F cCOMBINING_CRYPTOGRAMMIC_DOT
    cHORA_DIGIT_ZERO eONE eTWO eTHREE eFOUR eFIVE eSIX eSEVEN eEIGHT eNINE 1A90 cTHAM_DIGIT_ZERO
    eONE eTWO eTHREE eFOUR eFIVE eSIX eSEVEN eEIGHT eNINE 1AA0 cSIGN_WIANG dWIANGWAAK dSAWAN dKEOW
    dHOY dDOKMAI dREVERSED_ROTATED_RANA dMAI_YAMOK dKAAN dKAANKUU dSATKAAN dSATKAANKUU dHANG dCAANG
    1AB0 aCOMBINING_DOUBLED_CIRCUMFLEX_ACCENT bDIAERESIS-RING bINFINITY bDOWNWARDS_ARROW bTRIPLE_DOT
    bX-X_BELOW bWIGGLY_LINE_b bOPEN_MARK_b bDOUBLE_d bLIGHT_CENTRALIZATION_STROKE_b bSTRONG_d
    bPARENTHESES_ABOVE bDOUBLE_c bPARENTHESES_BELOW cOVERLAY bLATIN_SMALL_LETTER_W_BELOW eTURNED_c
    bLEFT_PARENTHESIS_ABOVE_LEFT bRIGHT_PARENTHESIS_ABOVE_RIGHT bLEFT_PARENTHESIS_BELOW_LEFT
    bRIGHT_PARENTHESIS_BELOW_RIGHT bSQUARE_BRACKETS_ABOVE bNUMBER_SIGN_b bINVERTED_DOUBLE_ARCH_b
    bPLUS_SIGN_b bDOUBLE_d eBELOW bTRIPLE_ACUTE_ACCENT bLATIN_SMALL_LETTER_INSULAR_G fR fT 1B00
    aBALINESE_SIGN_ULU_RICEM dCANDRA cCECEK cSURANG cBISAH bLETTER_AKARA cAKARA_TEDUNG cIKARA
    cIKARA_TEDUNG cUKARA cUKARA_TEDUNG cRA_REPA dREPA_TEDUNG cLA_LENGA dLENGA_TEDUNG cEKARA cAIKARA
    cOKARA cOKARA_TEDUNG cKA cKA_MAHAPRANA cGA cGA_GORA cNGA cCA cCA_LACA cJA cJA_JERA cNYA
    cTA_LATIK dMURDA_MAHAPRANA cDA_MURDA_ALPAPRANA eMAHAPRANA cNA_RAMBAT cTA cTA_TAWA cDA cDA_MADU
    cNA cPA cPA_KAPAL cBA cBA_KEMBANG cMA cYA cRA cLA cWA cSA_SAGA dSAPA cSA cHA bSIGN_REREKAN
    bVOWEL_SIGN_TEDUNG dULU dULU_SARI dSUKU dSUKU_ILUT dRA_REPA eREPA_TEDUNG dLA_LENGA eLENGA_TEDUNG
    dTALING dTALING_REPA eTEDUNG eREPA_b dPEPET dPEPET_TEDUNG bADEG_ADEG bLETTER_KAF_SASAK cKHOT_b
    cTZIR_b cEF_b cVE_b cZAL_b cASYURA_b cARCHAIC_JNYA 1B50 bDIGIT_ZERO cONE cTWO cTHREE cFOUR cFIVE
    cSIX cSEVEN cEIGHT cNINE bPANTI bPAMADA bWINDU bCARIK_PAMUNGKAH cSIKI cPAREREN bPAMENENG
    bMUSICAL_SYMBOL_DONG dDENG dDUNG dDANG dDANG_SURANG dDING dDAENG dDEUNG dDAING dDANG_GEDE
    dCOMBINING_TEGEH eENDEP eKEMPUL eKEMPLI eJEGOGAN eKEMPUL_WITH_b eKEMPLI_c eBENDE eGONG
    dRIGHT-HAND_OPEN_DUG gDAG fCLOSED_TUK gTAK dLEFT-HAND_OPEN_PANG gPUNG fCLOSED_PLAK gPLUK
    fOPEN_PING bPANTI_LANTANG bPAMADA_b 1B80 aSUNDANESE_SIGN_PANYECEK cPANGLAYAR cPANGWISAD
    bLETTER_A cI cU cAE cO cE cEU cKA cQA cGA cNGA cCA cJA cZA cNYA cTA cDA cNA cPA cFA cVA cBA cMA
    cYA cRA cLA cWA cSA cXA cHA bCONSONANT_SIGN_PAMINGKAL dPANYAKRA dPANYIKU bVOWEL_SIGN_PANGHULU
    dPANYUKU dPANAELAENG dPANOLONG dPAMEPET dPANEULEUNG bSIGN_PAMAAEH cVIRAMA
    bCONSONANT_SIGN_PASANGAN_MA eWA bLETTER_KHA cSYA bDIGIT_ZERO cONE cTWO cTHREE cFOUR cFIVE cSIX
    cSEVEN cEIGHT cNINE bAVAGRAHA bLETTER_REU cLEU cBHA cFINAL_K dM aBATAK_LETTER_A cSIMALUNGUN_b
    cHA cSIMALUNGUN_b cMANDAILING_b cBA cKARO_b cPA cSIMALUNGUN_b cNA cMANDAILING_b cWA
    cSIMALUNGUN_b cPAKPAK_b cGA cSIMALUNGUN_b cJA cDA cRA cSIMALUNGUN_b cMA cSIMALUNGUN_b
    cSOUTHERN_TA cNORTHERN_b cSA cSIMALUNGUN_b cMANDAILING_b cYA cSIMALUNGUN_b cNGA cLA
    cSIMALUNGUN_b cNYA cCA cNDA cMBA cI cU bSIGN_TOMPI bVOWEL_SIGN_E dPAKPAK_b dEE dI dKARO_b dO
    dKARO_b dU dU_FOR_SIMALUNGUN_SA bCONSONANT_SIGN_NG dH bPANGOLAT bPANONGONAN 1BFC
    bSYMBOL_BINDU_NA_METEK dPINARBORAS dJUDUL dPANGOLAT aLEPCHA_LETTER_KA cKLA cKHA cGA cGLA cNGA
    cCA cCHA cJA cNYA cTA cTHA cDA cNA cPA cPLA cPHA cFA cFLA cBA cBLA cMA cMLA cTSA cTSHA cDZA cYA
    cRA cLA cHA cHLA cVA cSA cSHA cWA cA bSUBJOINED_LETTER_YA dRA bVOWEL_SIGN_AA dI dO dOO dU dUU dE
    bCONSONANT_SIGN_K dM dL dN dP dR dT dNYIN-DO dKANG bSIGN_RAN cNUKTA 1C3B bPUNCTUATION_TA-ROL
    cNYET_THYOOM_c cCER-WA cTSHOOK_c cTSHOOK bDIGIT_ZERO cONE cTWO cTHREE cFOUR cFIVE cSIX cSEVEN
    cEIGHT cNINE 1C4D bLETTER_TTA cTTHA cDDA aOL_CHIKI_DIGIT_ZERO dONE dTWO dTHREE dFOUR dFIVE dSIX
    dSEVEN dEIGHT dNINE cLETTER_LA dAT dAG dANG dAL dLAA dAAK dAAJ dAAM dAAW dLI dIS dIH dINY dIR
    dLU dUC dUD dUNN dUY dLE dEP dEDD dEN dERR dLO dOTT dOB dOV dOH cMU_TTUDDAG cGAAHLAA_TTUDDAAG
    cMU-c cRELAA cPHAARKAA cAHAD cPUNCTUATION_MUCAAD dDOUBLE_b aCYRILLIC_SMALL_LETTER_ROUNDED_VE
    dLONG-LEGGED_DE dNARROW_O dWIDE_ES dTALL_TE dTHREE-LEGGED_b dTALL_HARD_SIGN eYAT dUNBLENDED_UK
    1C90 aGEORGIAN_MTAVRULI_CAPITAL_LETTER_AN eBAN eGAN eDON eEN eVIN eZEN eTAN eIN eKAN eLAS eMAN
    eNAR eON ePAR eZHAR eRAE eSAN eTAR eUN ePHAR eKHAR eGHAN eQAR eSHIN eCHIN eCAN eJIL eCIL eCHAR
    eXAN eJHAN eHAE eHE eHIE eWE eHAR eHOE eFI eYN eELIFI eTURNED_GAN eAIN 1CBD eAEN eHARD_SIGN
    eLABIAL_b aSUNDANESE_PUNCTUATION_BINDU_SURYA dPANGLONG dPURNAMA dCAKRA dLEU_SATANGA dKA_b dDA_b
    dBA_b 1CD0 aVEDIC_TONE_KARSHANA cSHARA cPRENKHA bSIGN_NIHSHVASA cYAJURVEDIC_MIDLINE_SVARITA
    bTONE_YAJURVEDIC_AGGRAVATED_INDEPENDENT_b dc dKATHAKA_c cCANDRA_BELOW
    cYAJURVEDIC_KATHAKA_INDEPENDENT_SVARITA_SCHROEDER cDOUBLE_SVARITA cTRIPLE_b cKATHAKA_ANUDATTA
    cDOT_BELOW cTWO_DOTS_b cTHREE_c cRIGVEDIC_KASHMIRI_INDEPENDENT_SVARITA cATHARVAVEDIC_c
    bSIGN_VISARGA_b dUDATTA cREVERSED_c cVISARGA_ANUDATTA cREVERSED_c cVISARGA_UDATTA_WITH_TAIL
    dANUDATTA_c cANUSVARA_ANTARGOMUKHA dBAHIRGOMUKHA dVAMAGOMUKHA dVAMAGOMUKHA_WITH_TAIL cTIRYAK
    cHEXIFORM_LONG_ANUSVARA cc cRTHANG_c cANUSVARA_UBHAYATO_MUKHA cARDHAVISARGA cROTATED_b
    bTONE_CANDRA_ABOVE bSIGN_JIHVAMULIYA cUPADHMANIYA cATIKRAMA bTONE_RING_ABOVE cDOUBLE_c
    bSIGN_DOUBLE_ANUSVARA_ANTARGOMUKHA 1D00 aLATIN_LETTER_SMALL_CAPITAL_A eAE bSMALL_LETTER_TURNED_b
    bLETTER_SMALL_CAPITAL_BARRED_B eC eD eETH eE bSMALL_LETTER_TURNED_OPEN_b eI
    bLETTER_SMALL_CAPITAL_J eK eL_WITH_STROKE eM eREVERSED_N eO eOPEN_b bSMALL_LETTER_SIDEWAYS_b
    eOPEN_b eO_WITH_STROKE dTURNED_OE bLETTER_SMALL_CAPITAL_OU bSMALL_LETTER_TOP_HALF_O dBOTTOM_c
    bLETTER_SMALL_CAPITAL_P eREVERSED_R eTURNED_b eT eU bSMALL_LETTER_SIDEWAYS_b eDIAERESIZED_b
    eTURNED_M bLETTER_SMALL_CAPITAL_V eW eZ eEZH cVOICED_LARYNGEAL_SPIRANT cAIN
    aGREEK_LETTER_SMALL_CAPITAL_GAMMA eLAMDA ePI eRHO ePSI aCYRILLIC_LETTER_SMALL_CAPITAL_EL
    aMODIFIER_LETTER_CAPITAL_A dAE dB dBARRED_b dD dE dREVERSED_b dG dH dI dJ dK dL dM dN
    dREVERSED_b dO dOU dP dR dT dU dW cSMALL_A dTURNED_b dALPHA dTURNED_AE dB dD dE dSCHWA dOPEN_E
    dTURNED_c dG dTURNED_I dK dM dENG dO dOPEN_b dTOP_HALF_b dBOTTOM_c dP dT dU dSIDEWAYS_b
    dTURNED_M dV dAIN dBETA dGREEK_GAMMA dDELTA dGREEK_PHI dCHI aLATIN_SUBSCRIPT_SMALL_LETTER_I eR
    eU eV aGREEK_SUBSCRIPT_SMALL_LETTER_BETA eGAMMA eRHO ePHI eCHI aLATIN_SMALL_LETTER_UE
    dB_WITH_MIDDLE_TILDE dD_d dF_d dM_d dN_d dP_d dR_d fFISHHOOK_AND_c dS_WITH_c dT_d dZ_d dTURNED_G
    aMODIFIER_LETTER_CYRILLIC_EN aLATIN_SMALL_LETTER_INSULAR_G dTH_WITH_STRIKETHROUGH
    cCAPITAL_LETTER_I_WITH_STROKE cLETTER_IOTA_c dP_c cCAPITAL_LETTER_U_c cLETTER_UPSILON_c
    dB_WITH_PALATAL_HOOK dD_d dF_d dG_d dK_d dL_d dM_d dN_d dP_d dR_d dS_d dESH_d dV_d dX_d dZ_d
    dA_WITH_RETROFLEX_b dALPHA_d dD_WITH_HOOK_AND_TAIL dE_WITH_RETROFLEX_HOOK dOPEN_e dREVERSED_f
    dSCHWA_d dI_d dOPEN_O_d dESH_d dU_d dEZH_d aMODIFIER_LETTER_SMALL_TURNED_ALPHA dC dC_WITH_CURL
    dETH dREVERSED_OPEN_E dF dDOTLESS_J_WITH_STROKE dSCRIPT_G dTURNED_H dI_WITH_STROKE dIOTA
    dCAPITAL_I eI_WITH_STROKE dJ_WITH_CROSSED-TAIL dL_WITH_RETROFLEX_HOOK fPALATAL_b dCAPITAL_L
    dM_WITH_HOOK dTURNED_M_WITH_LONG_LEG dN_WITH_LEFT_HOOK fRETROFLEX_b dCAPITAL_N dBARRED_O dPHI
    dS_WITH_HOOK dESH dT_WITH_PALATAL_HOOK dU_BAR dUPSILON dCAPITAL_U dV_WITH_HOOK dTURNED_V dZ
    dZ_WITH_RETROFLEX_HOOK fCURL dEZH dTHETA aCOMBINING_DOTTED_GRAVE_ACCENT cACUTE_b bSNAKE_BELOW
    bSUSPENSION_MARK bMACRON-ACUTE bGRAVE-MACRON bMACRON-GRAVE bACUTE-MACRON bGRAVE-ACUTE-GRAVE
    bACUTE-GRAVE-ACUTE bLATIN_SMALL_LETTER_R_BELOW bBREVE-MACRON bMACRON-BREVE
    bDOUBLE_CIRCUMFLEX_ABOVE bOGONEK_b bZIGZAG_BELOW bIS_b bUR_ABOVE bUS_b
    bLATIN_SMALL_LETTER_FLATTENED_OPEN_A_b eAE eAO eAV eC_CEDILLA eINSULAR_D eETH eG
    cLETTER_SMALL_CAPITAL_b cSMALL_LETTER_K eL cLETTER_SMALL_CAPITAL_b fM cSMALL_LETTER_N
    cLETTER_SMALL_CAPITAL_b fR cSMALL_LETTER_R_ROTUNDA eS eLONG_b eZ eALPHA eB eBETA eSCHWA eF
    eL_WITH_DOUBLE_MIDDLE_TILDE eO_WITH_LIGHT_CENTRALIZATION_STROKE eP eESH
    eU_WITH_LIGHT_CENTRALIZATION_STROKE eW eA_WITH_DIAERESIS eO_c eU_c bUP_TACK_ABOVE
    bKAVYKA_ABOVE_RIGHT dLEFT bDOT_c bWIDE_INVERTED_BRIDGE_BELOW bDOT_BELOW_LEFT bDELETION_MARK
    bDOUBLE_INVERTED_BREVE_BELOW bALMOST_EQUAL_TO_b bLEFT_ARROWHEAD_ABOVE
    bRIGHT_ARROWHEAD_AND_DOWN_ARROWHEAD_BELOW aLATIN_CAPITAL_LETTER_A_WITH_RING_b bSMALL_f
    bCAPITAL_LETTER_B_WITH_DOT_ABOVE bSMALL_f bCAPITAL_LETTER_B_WITH_DOT_BELOW bSMALL_f
    bCAPITAL_LETTER_B_WITH_LINE_b bSMALL_f bCAPITAL_LETTER_C_WITH_CEDILLA_AND_ACUTE bSMALL_g
    bCAPITAL_LETTER_D_WITH_DOT_ABOVE bSMALL_f bCAPITAL_LETTER_D_WITH_DOT_BELOW bSMALL_f
    bCAPITAL_LETTER_D_WITH_LINE_b bSMALL_f bCAPITAL_LETTER_D_WITH_CEDILLA bSMALL_e
    bCAPITAL_LETTER_D_WITH_CIRCUMFLEX_BELOW bSMALL_f bCAPITAL_LETTER_E_WITH_MACRON_AND_GRAVE
    bSMALL_g bCAPITAL_LETTER_E_WITH_MACRON_AND_ACUTE bSMALL_g
    bCAPITAL_LETTER_E_WITH_CIRCUMFLEX_BELOW bSMALL_f bCAPITAL_LETTER_E_WITH_TILDE_b bSMALL_f
    bCAPITAL_LETTER_E_WITH_CEDILLA_AND_BREVE bSMALL_g bCAPITAL_LETTER_F_WITH_DOT_ABOVE bSMALL_f
    bCAPITAL_LETTER_G_WITH_MACRON bSMALL_e bCAPITAL_LETTER_H_WITH_DOT_ABOVE bSMALL_f
    bCAPITAL_LETTER_H_WITH_DOT_BELOW bSMALL_f bCAPITAL_LETTER_H_WITH_DIAERESIS bSMALL_e
    bCAPITAL_LETTER_H_WITH_CEDILLA bSMALL_e bCAPITAL_LETTER_H_WITH_BREVE_BELOW bSMALL_f
    bCAPITAL_LETTER_I_WITH_TILDE_b bSMALL_f bCAPITAL_LETTER_I_WITH_DIAERESIS_AND_ACUTE bSMALL_g
    bCAPITAL_LETTER_K_WITH_b bSMALL_e bCAPITAL_LETTER_K_WITH_DOT_BELOW bSMALL_f
    bCAPITAL_LETTER_K_WITH_LINE_b bSMALL_f bCAPITAL_LETTER_L_WITH_DOT_b bSMALL_f
    bCAPITAL_LETTER_L_WITH_DOT_BELOW_AND_MACRON bSMALL_h bCAPITAL_LETTER_L_WITH_LINE_BELOW bSMALL_f
    bCAPITAL_LETTER_L_WITH_CIRCUMFLEX_b bSMALL_f bCAPITAL_LETTER_M_WITH_ACUTE bSMALL_e
    bCAPITAL_LETTER_M_WITH_DOT_ABOVE bSMALL_f bCAPITAL_LETTER_M_WITH_DOT_BELOW bSMALL_f
    bCAPITAL_LETTER_N_WITH_DOT_ABOVE bSMALL_f bCAPITAL_LETTER_N_WITH_DOT_BELOW bSMALL_f
    bCAPITAL_LETTER_N_WITH_LINE_b bSMALL_f bCAPITAL_LETTER_N_WITH_CIRCUMFLEX_b bSMALL_f
    bCAPITAL_LETTER_O_WITH_TILDE_AND_ACUTE bSMALL_g bCAPITAL_LETTER_O_WITH_TILDE_AND_DIAERESIS
    bSMALL_g bCAPITAL_LETTER_O_WITH_MACRON_AND_GRAVE bSMALL_g
    bCAPITAL_LETTER_O_WITH_MACRON_AND_ACUTE bSMALL_g bCAPITAL_LETTER_P_WITH_b bSMALL_e
    bCAPITAL_LETTER_P_WITH_DOT_ABOVE bSMALL_f bCAPITAL_LETTER_R_d bSMALL_f
    bCAPITAL_LETTER_R_WITH_DOT_BELOW bSMALL_f bCAPITAL_LETTER_R_WITH_DOT_BELOW_AND_MACRON bSMALL_h
    bCAPITAL_LETTER_R_WITH_LINE_BELOW bSMALL_f bCAPITAL_LETTER_S_WITH_DOT_ABOVE bSMALL_f
    bCAPITAL_LETTER_S_WITH_DOT_BELOW bSMALL_f bCAPITAL_LETTER_S_WITH_ACUTE_AND_DOT_ABOVE bSMALL_h
    bCAPITAL_LETTER_S_WITH_CARON_d bSMALL_h bCAPITAL_LETTER_S_WITH_DOT_BELOW_d bSMALL_i
    bCAPITAL_LETTER_T_WITH_c bSMALL_f bCAPITAL_LETTER_T_WITH_DOT_BELOW bSMALL_f
    bCAPITAL_LETTER_T_WITH_LINE_b bSMALL_f bCAPITAL_LETTER_T_WITH_CIRCUMFLEX_b bSMALL_f
    bCAPITAL_LETTER_U_WITH_DIAERESIS_b bSMALL_f bCAPITAL_LETTER_U_WITH_TILDE_b bSMALL_f
    bCAPITAL_LETTER_U_WITH_CIRCUMFLEX_b bSMALL_f bCAPITAL_LETTER_U_WITH_TILDE_AND_ACUTE bSMALL_g
    bCAPITAL_LETTER_U_WITH_MACRON_AND_DIAERESIS bSMALL_g bCAPITAL_LETTER_V_WITH_TILDE bSMALL_e
    bCAPITAL_LETTER_V_WITH_DOT_BELOW bSMALL_f bCAPITAL_LETTER_W_WITH_GRAVE bSMALL_e
    bCAPITAL_LETTER_W_WITH_ACUTE bSMALL_e bCAPITAL_LETTER_W_WITH_DIAERESIS bSMALL_e
    bCAPITAL_LETTER_W_WITH_DOT_ABOVE bSMALL_f bCAPITAL_LETTER_W_WITH_DOT_BELOW bSMALL_f
    bCAPITAL_LETTER_X_WITH_DOT_ABOVE bSMALL_f bCAPITAL_LETTER_X_WITH_DIAERESIS bSMALL_e
    bCAPITAL_LETTER_Y_WITH_DOT_ABOVE bSMALL_f bCAPITAL_LETTER_Z_WITH_CIRCUMFLEX bSMALL_e
    bCAPITAL_LETTER_Z_WITH_DOT_BELOW bSMALL_f bCAPITAL_LETTER_Z_WITH_LINE_b bSMALL_f dH_d
    dT_WITH_DIAERESIS dW_WITH_RING_ABOVE dY_d dA_WITH_RIGHT_HALF_RING dLONG_S_WITH_DOT_ABOVE
    gDIAGONAL_STROKE gHIGH_b bCAPITAL_LETTER_SHARP_S bSMALL_LETTER_DELTA
    bCAPITAL_LETTER_A_WITH_DOT_BELOW bSMALL_f bCAPITAL_LETTER_A_WITH_HOOK_ABOVE bSMALL_f
    bCAPITAL_LETTER_A_WITH_CIRCUMFLEX_AND_ACUTE bSMALL_g bCAPITAL_LETTER_A_WITH_CIRCUMFLEX_AND_GRAVE
    bSMALL_g bCAPITAL_LETTER_A_WITH_CIRCUMFLEX_AND_HOOK_ABOVE bSMALL_h
    bCAPITAL_LETTER_A_WITH_CIRCUMFLEX_AND_TILDE bSMALL_g
    bCAPITAL_LETTER_A_WITH_CIRCUMFLEX_AND_DOT_BELOW bSMALL_h bCAPITAL_LETTER_A_WITH_BREVE_AND_ACUTE
    bSMALL_g bCAPITAL_LETTER_A_WITH_BREVE_AND_GRAVE bSMALL_g
    bCAPITAL_LETTER_A_WITH_BREVE_AND_HOOK_ABOVE bSMALL_h bCAPITAL_LETTER_A_WITH_BREVE_AND_TILDE
    bSMALL_g bCAPITAL_LETTER_A_WITH_BREVE_AND_DOT_BELOW bSMALL_h bCAPITAL_LETTER_E_WITH_c bSMALL_f
    bCAPITAL_LETTER_E_WITH_HOOK_ABOVE bSMALL_f bCAPITAL_LETTER_E_WITH_TILDE bSMALL_e
    bCAPITAL_LETTER_E_WITH_CIRCUMFLEX_AND_ACUTE bSMALL_g bCAPITAL_LETTER_E_WITH_CIRCUMFLEX_AND_GRAVE
    bSMALL_g bCAPITAL_LETTER_E_WITH_CIRCUMFLEX_AND_HOOK_ABOVE bSMALL_h
    bCAPITAL_LETTER_E_WITH_CIRCUMFLEX_AND_TILDE bSMALL_g
    bCAPITAL_LETTER_E_WITH_CIRCUMFLEX_AND_DOT_BELOW bSMALL_h bCAPITAL_LETTER_I_WITH_HOOK_ABOVE
    bSMALL_f bCAPITAL_LETTER_I_WITH_DOT_BELOW bSMALL_f bCAPITAL_LETTER_O_d bSMALL_f
    bCAPITAL_LETTER_O_WITH_HOOK_ABOVE bSMALL_f bCAPITAL_LETTER_O_WITH_CIRCUMFLEX_AND_ACUTE bSMALL_g
    bCAPITAL_LETTER_O_WITH_CIRCUMFLEX_AND_GRAVE bSMALL_g
    bCAPITAL_LETTER_O_WITH_CIRCUMFLEX_AND_HOOK_ABOVE bSMALL_h
    bCAPITAL_LETTER_O_WITH_CIRCUMFLEX_AND_TILDE bSMALL_g
    bCAPITAL_LETTER_O_WITH_CIRCUMFLEX_AND_DOT_BELOW bSMALL_h bCAPITAL_LETTER_O_WITH_HORN_AND_ACUTE
    bSMALL_g bCAPITAL_LETTER_O_WITH_HORN_AND_GRAVE bSMALL_g
    bCAPITAL_LETTER_O_WITH_HORN_AND_HOOK_ABOVE bSMALL_h bCAPITAL_LETTER_O_WITH_HORN_AND_TILDE
    bSMALL_g bCAPITAL_LETTER_O_WITH_HORN_AND_DOT_BELOW bSMALL_h bCAPITAL_LETTER_U_WITH_c bSMALL_f
    bCAPITAL_LETTER_U_WITH_HOOK_ABOVE bSMALL_f bCAPITAL_LETTER_U_WITH_HORN_AND_ACUTE bSMALL_g
    bCAPITAL_LETTER_U_WITH_HORN_AND_GRAVE bSMALL_g bCAPITAL_LETTER_U_WITH_HORN_AND_HOOK_ABOVE
    bSMALL_h bCAPITAL_LETTER_U_WITH_HORN_AND_TILDE bSMALL_g
    bCAPITAL_LETTER_U_WITH_HORN_AND_DOT_BELOW bSMALL_h bCAPITAL_LETTER_Y_WITH_GRAVE bSMALL_e
    bCAPITAL_LETTER_Y_WITH_DOT_BELOW bSMALL_f bCAPITAL_LETTER_Y_WITH_HOOK_ABOVE bSMALL_f
    bCAPITAL_LETTER_Y_WITH_TILDE bSMALL_e bCAPITAL_LETTER_MIDDLE-WELSH_LL bSMALL_e
    bCAPITAL_LETTER_MIDDLE-WELSH_V bSMALL_e bCAPITAL_LETTER_Y_WITH_LOOP bSMALL_e
    aGREEK_SMALL_LETTER_ALPHA_WITH_PSILI fDASIA fPSILI_AND_VARIA fDASIA_c fPSILI_AND_OXIA fDASIA_c
    fPSILI_AND_PERISPOMENI fDASIA_c bCAPITAL_LETTER_ALPHA_WITH_PSILI fDASIA fPSILI_AND_VARIA
    fDASIA_c fPSILI_AND_OXIA fDASIA_c fPSILI_AND_PERISPOMENI fDASIA_c
    bSMALL_LETTER_EPSILON_WITH_PSILI fDASIA fPSILI_AND_VARIA fDASIA_c fPSILI_AND_OXIA fDASIA_c 1F18
    bCAPITAL_LETTER_EPSILON_WITH_PSILI fDASIA fPSILI_AND_VARIA fDASIA_c fPSILI_AND_OXIA fDASIA_c
    1F20 bSMALL_LETTER_ETA_WITH_PSILI fDASIA fPSILI_AND_VARIA fDASIA_c fPSILI_AND_OXIA fDASIA_c
    fPSILI_AND_PERISPOMENI fDASIA_c bCAPITAL_LETTER_ETA_WITH_PSILI fDASIA fPSILI_AND_VARIA fDASIA_c
    fPSILI_AND_OXIA fDASIA_c fPSILI_AND_PERISPOMENI fDASIA_c bSMALL_LETTER_IOTA_WITH_PSILI fDASIA
    fPSILI_AND_VARIA fDASIA_c fPSILI_AND_OXIA fDASIA_c fPSILI_AND_PERISPOMENI fDASIA_c
    bCAPITAL_LETTER_IOTA_WITH_PSILI fDASIA fPSILI_AND_VARIA fDASIA_c fPSILI_AND_OXIA fDASIA_c
    fPSILI_AND_PERISPOMENI fDASIA_c bSMALL_LETTER_OMICRON_WITH_PSILI fDASIA fPSILI_AND_VARIA
    fDASIA_c fPSILI_AND_OXIA fDASIA_c 1F48 bCAPITAL_LETTER_OMICRON_WITH_PSILI fDASIA
    fPSILI_AND_VARIA fDASIA_c fPSILI_AND_OXIA fDASIA_c 1F50 bSMALL_LETTER_UPSILON_WITH_PSILI fDASIA
    fPSILI_AND_VARIA fDASIA_c fPSILI_AND_OXIA fDASIA_c fPSILI_AND_PERISPOMENI fDASIA_c 1F59
    bCAPITAL_LETTER_UPSILON_WITH_DASIA 1F5B fDASIA_AND_VARIA 1F5D hOXIA 1F5F hPERISPOMENI
    bSMALL_LETTER_OMEGA_WITH_PSILI fDASIA fPSILI_AND_VARIA fDASIA_c fPSILI_AND_OXIA fDASIA_c
    fPSILI_AND_PERISPOMENI fDASIA_c bCAPITAL_LETTER_OMEGA_WITH_PSILI fDASIA fPSILI_AND_VARIA
    fDASIA_c fPSILI_AND_OXIA fDASIA_c fPSILI_AND_PERISPOMENI fDASIA_c bSMALL_LETTER_ALPHA_WITH_VARIA
    fOXIA dEPSILON_WITH_VARIA fOXIA dETA_WITH_VARIA fOXIA dIOTA_WITH_VARIA fOXIA dOMICRON_WITH_VARIA
    fOXIA dUPSILON_WITH_VARIA fOXIA dOMEGA_WITH_VARIA fOXIA 1F80 dALPHA_WITH_PSILI_AND_YPOGEGRAMMENI
    fDASIA_c fPSILI_AND_VARIA_c fDASIA_e fPSILI_AND_OXIA_c fDASIA_e fPSILI_AND_PERISPOMENI_c
    fDASIA_e bCAPITAL_LETTER_ALPHA_WITH_PSILI_AND_PROSGEGRAMMENI fDASIA_c fPSILI_AND_VARIA_c
    fDASIA_e fPSILI_AND_OXIA_c fDASIA_e fPSILI_AND_PERISPOMENI_c fDASIA_e
    bSMALL_LETTER_ETA_WITH_PSILI_AND_YPOGEGRAMMENI fDASIA_c fPSILI_AND_VARIA_c fDASIA_e
    fPSILI_AND_OXIA_c fDASIA_e fPSILI_AND_PERISPOMENI_c fDASIA_e
    bCAPITAL_LETTER_ETA_WITH_PSILI_AND_PROSGEGRAMMENI fDASIA_c fPSILI_AND_VARIA_c fDASIA_e
    fPSILI_AND_OXIA_c fDASIA_e fPSILI_AND_PERISPOMENI_c fDASIA_e
    bSMALL_LETTER_OMEGA_WITH_PSILI_AND_YPOGEGRAMMENI fDASIA_c fPSILI_AND_VARIA_c fDASIA_e
    fPSILI_AND_OXIA_c fDASIA_e fPSILI_AND_PERISPOMENI_c fDASIA_e
    bCAPITAL_LETTER_OMEGA_WITH_PSILI_AND_PROSGEGRAMMENI fDASIA_c fPSILI_AND_VARIA_c fDASIA_e
    fPSILI_AND_OXIA_c fDASIA_e fPSILI_AND_PERISPOMENI_c fDASIA_e bSMALL_LETTER_ALPHA_WITH_VRACHY
    fMACRON fVARIA_AND_YPOGEGRAMMENI fb fOXIA_AND_b 1FB6 fPERISPOMENI fPERISPOMENI_AND_YPOGEGRAMMENI
    bCAPITAL_LETTER_ALPHA_WITH_VRACHY fMACRON fVARIA fOXIA fPROSGEGRAMMENI bKORONIS bPROSGEGRAMMENI
    bPSILI bPERISPOMENI bDIALYTIKA_AND_b bSMALL_LETTER_ETA_WITH_VARIA_AND_YPOGEGRAMMENI fb
    fOXIA_AND_b 1FC6 fPERISPOMENI fPERISPOMENI_AND_YPOGEGRAMMENI bCAPITAL_LETTER_EPSILON_WITH_VARIA
    fOXIA dETA_WITH_VARIA fOXIA fPROSGEGRAMMENI bPSILI_AND_VARIA dOXIA dPERISPOMENI
    bSMALL_LETTER_IOTA_WITH_VRACHY fMACRON fDIALYTIKA_AND_VARIA hOXIA 1FD6 fPERISPOMENI
    fDIALYTIKA_AND_b bCAPITAL_LETTER_IOTA_WITH_VRACHY fMACRON fVARIA fOXIA 1FDD bDASIA_AND_VARIA
    dOXIA dPERISPOMENI bSMALL_LETTER_UPSILON_WITH_VRACHY fMACRON fDIALYTIKA_AND_VARIA hOXIA
    dRHO_WITH_PSILI fDASIA dUPSILON_WITH_PERISPOMENI fDIALYTIKA_AND_b
    bCAPITAL_LETTER_UPSILON_WITH_VRACHY fMACRON fVARIA fOXIA dRHO_WITH_DASIA bDIALYTIKA_AND_VARIA
    dOXIA bVARIA 1FF2 bSMALL_LETTER_OMEGA_WITH_VARIA_AND_YPOGEGRAMMENI fb fOXIA_AND_b 1FF6
    fPERISPOMENI fPERISPOMENI_AND_YPOGEGRAMMENI bCAPITAL_LETTER_OMICRON_WITH_VARIA fOXIA
    dOMEGA_WITH_VARIA fOXIA fPROSGEGRAMMENI bOXIA bDASIA"

end SourceConventions.Text.CharName
