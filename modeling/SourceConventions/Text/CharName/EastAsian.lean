/-!
# Names of characters: East Asian scripts and compatibility forms
-/

namespace SourceConventions.Text.CharName

/-- Names of characters from U+3000 to U+FFFD. -/
def eastAsian : String :=
  "3000 aIDEOGRAPHIC_SPACE bCOMMA bFULL_STOP aDITTO_MARK aJAPANESE_INDUSTRIAL_STANDARD_SYMBOL
    aIDEOGRAPHIC_ITERATION_MARK bCLOSING_b bNUMBER_ZERO aLEFT_ANGLE_BRACKET aRIGHT_c aLEFT_DOUBLE_c
    aRIGHT_d aLEFT_CORNER_b aRIGHT_c aLEFT_WHITE_c aRIGHT_d aLEFT_BLACK_LENTICULAR_b aRIGHT_d
    aPOSTAL_MARK aGETA_b aLEFT_TORTOISE_SHELL_BRACKET aRIGHT_d aLEFT_WHITE_LENTICULAR_b aRIGHT_d
    aLEFT_WHITE_TORTOISE_SHELL_b aRIGHT_e aLEFT_WHITE_SQUARE_b aRIGHT_d aWAVE_DASH
    aREVERSED_DOUBLE_PRIME_QUOTATION_MARK ae aLOW_e aPOSTAL_MARK_FACE aHANGZHOU_NUMERAL_ONE cTWO
    cTHREE cFOUR cFIVE cSIX cSEVEN cEIGHT cNINE aIDEOGRAPHIC_LEVEL_TONE_MARK bRISING_c bDEPARTING_c
    bENTERING_c aHANGUL_SINGLE_DOT_c bDOUBLE_d aWAVY_DASH aVERTICAL_KANA_REPEAT_MARK
    dWITH_VOICED_SOUND_b dMARK_UPPER_HALF dWITH_VOICED_SOUND_d dMARK_LOWER_b aCIRCLED_POSTAL_MARK
    aIDEOGRAPHIC_TELEGRAPH_LINE_FEED_SEPARATOR_SYMBOL aHANGZHOU_NUMERAL_TEN cTWENTY cTHIRTY
    aVERTICAL_IDEOGRAPHIC_ITERATION_MARK aMASU_b aPART_ALTERNATION_b
    aIDEOGRAPHIC_VARIATION_INDICATOR bHALF_FILL_SPACE 3041 aHIRAGANA_LETTER_SMALL_A cb cSMALL_I cb
    cSMALL_U cb cSMALL_E cb cSMALL_O cb cKA cGA cKI cGI cKU cGU cKE cGE cKO cGO cSA cZA cSI cZI cSU
    cZU cSE cZE cSO cZO cTA cDA cTI cDI cSMALL_TU cb cDU cTE cDE cTO cDO cNA cNI cNU cNE cNO cHA cBA
    cPA cHI cBI cPI cHU cBU cPU cHE cBE cPE cHO cBO cPO cMA cMI cMU cME cMO cSMALL_YA cb cSMALL_YU
    cb cSMALL_YO cb cRA cRI cRU cRE cRO cSMALL_WA cb cWI cWE cWO cN cVU cSMALL_KA dKE 3099
    aCOMBINING_KATAKANA-HIRAGANA_VOICED_SOUND_MARK dSEMI-d aKATAKANA-HIRAGANA_d cSEMI-d
    aHIRAGANA_ITERATION_b bVOICED_c bDIGRAPH_YORI aKATAKANA-HIRAGANA_DOUBLE_HYPHEN
    aKATAKANA_LETTER_SMALL_A cb cSMALL_I cb cSMALL_U cb cSMALL_E cb cSMALL_O cb cKA cGA cKI cGI cKU
    cGU cKE cGE cKO cGO cSA cZA cSI cZI cSU cZU cSE cZE cSO cZO cTA cDA cTI cDI cSMALL_TU cb cDU cTE
    cDE cTO cDO cNA cNI cNU cNE cNO cHA cBA cPA cHI cBI cPI cHU cBU cPU cHE cBE cPE cHO cBO cPO cMA
    cMI cMU cME cMO cSMALL_YA cb cSMALL_YU cb cSMALL_YO cb cRA cRI cRU cRE cRO cSMALL_WA cb cWI cWE
    cWO cN cVU cSMALL_KA dKE cVA cVI cVE cVO bMIDDLE_DOT aKATAKANA-HIRAGANA_PROLONGED_SOUND_MARK
    aKATAKANA_ITERATION_b bVOICED_c bDIGRAPH_KOTO 3105 aBOPOMOFO_LETTER_B cP cM cF cD cT cN cL cG cK
    cH cJ cQ cX cZH cCH cSH cR cZ cC cS cA cO cE cEH cAI cEI cAU cOU cAN cEN cANG cENG cER cI cU cIU
    cV cNG cGN cIH cO_WITH_DOT_ABOVE cNN 3131 aHANGUL_LETTER_KIYEOK cSSANGKIYEOK cKIYEOK-SIOS cNIEUN
    cNIEUN-CIEUC dHIEUH cTIKEUT cSSANGTIKEUT cRIEUL cRIEUL-KIYEOK dMIEUM dPIEUP dSIOS dTHIEUTH
    dPHIEUPH dHIEUH cMIEUM cPIEUP cSSANGPIEUP cPIEUP-SIOS cb cSSANGSIOS cIEUNG cCIEUC cSSANGCIEUC
    cCHIEUCH cKHIEUKH cTHIEUTH cPHIEUPH cHIEUH cA cAE cYA cYAE cEO cE cYEO cYE cO cWA cWAE cOE cYO
    cU cWEO cWE cWI cYU cEU cYI cI bFILLER bLETTER_SSANGNIEUN cNIEUN-TIKEUT dSIOS dPANSIOS
    cRIEUL-KIYEOK-SIOS dTIKEUT dPIEUP-SIOS dPANSIOS dYEORINHIEUH cMIEUM-PIEUP dSIOS dPANSIOS
    cKAPYEOUNMIEUM cPIEUP-KIYEOK dTIKEUT dSIOS-KIYEOK eTIKEUT dCIEUC dTHIEUTH cKAPYEOUNPIEUP
    cKAPYEOUNSSANGPIEUP cSIOS-KIYEOK dNIEUN dTIKEUT dPIEUP dCIEUC cPANSIOS cSSANGIEUNG cYESIEUNG
    cYESIEUNG-SIOS dPANSIOS cKAPYEOUNPHIEUPH cSSANGHIEUH cYEORINHIEUH cYO-YA dYAE dI cYU-YEO dYE dI
    cARAEA cARAEAE 3190 aIDEOGRAPHIC_ANNOTATION_LINKING_MARK cREVERSE_b cONE_b cTWO_b cTHREE_b
    cFOUR_b cTOP_b cMIDDLE_b cBOTTOM_b cFIRST_b cSECOND_b cTHIRD_b cFOURTH_b cHEAVEN_b cEARTH_b
    cMAN_b aBOPOMOFO_LETTER_BU cZI cJI cGU cEE cENN cOO cONN cIR cANN cINN cUNN cIM cNGG cAINN cAUNN
    cAM cOM cONG cINNN bFINAL_LETTER_P dT dK dH bLETTER_GH cLH cZY bFINAL_LETTER_G bLETTER_GW cKW
    cOE cAH aCJK_STROKE_T cWG cXG cBXG cSW cHZZ cHZG cHP cHZWG cSZWG cHZT cHZZP cHPWG cHZW cHZZZ cN
    cH cS cP cSP cD cHZ cHG cSZ cSWZ cST cSG cPD cPZ cTN cSZZ cSWG cHXWG cHZZZG cPG cQ 31F0
    aKATAKANA_LETTER_SMALL_KU dSI dSU dTO dNU dHA dHI dHU dHE dHO dMU dRA dRI dRU dRE dRO
    aPARENTHESIZED_HANGUL_KIYEOK cNIEUN cTIKEUT cRIEUL cMIEUM cPIEUP cSIOS cIEUNG cCIEUC cCHIEUCH
    cKHIEUKH cTHIEUTH cPHIEUPH cHIEUH cKIYEOK_A cNIEUN_b cTIKEUT_b cRIEUL_b cMIEUM_b cPIEUP_b
    cSIOS_b cIEUNG_b cCIEUC_b cCHIEUCH_b cKHIEUKH_b cTHIEUTH_b cPHIEUPH_b cHIEUH_b cCIEUC_U
    bKOREAN_CHARACTER_OJEON dO_HU 3220 bIDEOGRAPH_ONE cTWO cTHREE cFOUR cFIVE cSIX cSEVEN cEIGHT
    cNINE cTEN cMOON cFIRE cWATER cWOOD cMETAL cEARTH cSUN cSTOCK cHAVE cSOCIETY cNAME cSPECIAL
    cFINANCIAL cCONGRATULATION cLABOR cREPRESENT cCALL cSTUDY cSUPERVISE cENTERPRISE cRESOURCE
    cALLIANCE cFESTIVAL cREST cSELF cREACH aCIRCLED_IDEOGRAPH_QUESTION cKINDERGARTEN cSCHOOL cKOTO
    bNUMBER_TEN_ON_BLACK_SQUARE cTWENTY_d cTHIRTY_d cFORTY_d cFIFTY_d cSIXTY_d cSEVENTY_d cEIGHTY_d
    aPARTNERSHIP_SIGN aCIRCLED_NUMBER_TWENTY_ONE dTWO dTHREE dFOUR dFIVE dSIX dSEVEN dEIGHT dNINE
    cTHIRTY cTHIRTY_ONE dTWO dTHREE dFOUR dFIVE bHANGUL_KIYEOK cNIEUN cTIKEUT cRIEUL cMIEUM cPIEUP
    cSIOS cIEUNG cCIEUC cCHIEUCH cKHIEUKH cTHIEUTH cPHIEUPH cHIEUH cKIYEOK_A cNIEUN_b cTIKEUT_b
    cRIEUL_b cMIEUM_b cPIEUP_b cSIOS_b cIEUNG_b cCIEUC_b cCHIEUCH_b cKHIEUKH_b cTHIEUTH_b cPHIEUPH_b
    cHIEUH_b bKOREAN_CHARACTER_CHAMKO dJUEUI bHANGUL_IEUNG_U aKOREAN_STANDARD_SYMBOL
    aCIRCLED_IDEOGRAPH_ONE cTWO cTHREE cFOUR cFIVE cSIX cSEVEN cEIGHT cNINE cTEN cMOON cFIRE cWATER
    cWOOD cMETAL cEARTH cSUN cSTOCK cHAVE cSOCIETY cNAME cSPECIAL cFINANCIAL cCONGRATULATION cLABOR
    cSECRET cMALE cFEMALE cSUITABLE cEXCELLENT cPRINT cATTENTION cITEM cREST cCOPY cCORRECT cHIGH
    cCENTRE cLOW cLEFT cRIGHT cMEDICINE cRELIGION cSTUDY cSUPERVISE cENTERPRISE cRESOURCE cALLIANCE
    cNIGHT bNUMBER_THIRTY_SIX dSEVEN dEIGHT dNINE cFORTY cFORTY_ONE dTWO dTHREE dFOUR dFIVE dSIX
    dSEVEN dEIGHT dNINE cFIFTY aIDEOGRAPHIC_TELEGRAPH_SYMBOL_FOR_JANUARY eFEBRUARY eMARCH eAPRIL
    eMAY eJUNE eJULY eAUGUST eSEPTEMBER eOCTOBER eNOVEMBER eDECEMBER aSQUARE_HG bERG bEV
    aLIMITED_LIABILITY_SIGN aCIRCLED_KATAKANA_A cI cU cE cO cKA cKI cKU cKE cKO cSA cSI cSU cSE cSO
    cTA cTI cTU cTE cTO cNA cNI cNU cNE cNO cHA cHI cHU cHE cHO cMA cMI cMU cME cMO cYA cYU cYO cRA
    cRI cRU cRE cRO cWA cWI cWE cWO aSQUARE_ERA_NAME_REIWA bAPAATO bARUHUA bANPEA bAARU bININGU
    bINTI bUON bESUKUUDO bEEKAA bONSU bOOMU bKAIRI bKARATTO bKARORII bGARON bGANMA bGIGA bGINII
    bKYURII bGIRUDAA bKIRO bKIROGURAMU bKIROMEETORU bKIROWATTO bGURAMU bGURAMUTON bKURUZEIRO
    bKUROONE bKEESU bKORUNA bKOOPO bSAIKURU bSANTIIMU bSIRINGU bSENTI bSENTO bDAASU bDESI bDORU bTON
    bNANO bNOTTO bHAITU bPAASENTO bPAATU bBAARERU bPIASUTORU bPIKURU bPIKO bBIRU bHUARADDO bHUIITO
    bBUSSYERU bHURAN bHEKUTAARU bPESO bPENIHI bHERUTU bPENSU bPEEZI bBEETA bPOINTO bBORUTO bHON
    bPONDO bHOORU bHOON bMAIKURO bMAIRU bMAHHA bMARUKU bMANSYON bMIKURON bMIRI bMIRIBAARU bMEGA
    bMEGATON bMEETORU bYAADO bYAARU bYUAN bRITTORU bRIRA bRUPII bRUUBURU bREMU bRENTOGEN bWATTO
    aIDEOGRAPHIC_TELEGRAPH_SYMBOL_FOR_HOUR_ZERO fONE fTWO fTHREE fFOUR fFIVE fSIX fSEVEN fEIGHT
    fNINE fTEN fELEVEN fTWELVE fTHIRTEEN fFOURTEEN fFIFTEEN fSIXTEEN fSEVENTEEN fEIGHTEEN fNINETEEN
    fTWENTY fTWENTY-ONE gTWO gTHREE gFOUR aSQUARE_HPA bDA bAU bBAR bOV bPC bDM bDM_SQUARED cCUBED
    bIU bERA_NAME_HEISEI dSYOUWA dTAISYOU dMEIZI bCORPORATION bPA_AMPS bNA bMU_A bMA bKA bKB bMB bGB
    bCAL bKCAL bPF bNF bMU_F cG bMG bKG bHZ bKHZ bMHZ bGHZ bTHZ bMU_L bML bDL bKL bFM bNM bMU_M bMM
    bCM bKM bMM_SQUARED bCM_b bM_b bKM_b bMM_CUBED bCM_b bM_b bKM_b bM_OVER_S dS_SQUARED bPA bKPA
    bMPA bGPA bRAD bRAD_OVER_S dS_SQUARED bPS bNS bMU_S bMS bPV bNV bMU_V bMV bKV bMV_MEGA bPW bNW
    bMU_W bMW bKW bMW_MEGA bK_OHM bM_b bAM bBQ bCC bCD bC_OVER_KG bCO bDB bGY bHA bHP bIN bKK
    bKM_CAPITAL bKT bLM bLN bLOG bLX bMB_SMALL bMIL bMOL bPH bPM bPPM bPR bSR bSV bWB bV_OVER_M bA_c
    aIDEOGRAPHIC_TELEGRAPH_SYMBOL_FOR_DAY_ONE fTWO fTHREE fFOUR fFIVE fSIX fSEVEN fEIGHT fNINE fTEN
    fELEVEN fTWELVE fTHIRTEEN fFOURTEEN fFIFTEEN fSIXTEEN fSEVENTEEN fEIGHTEEN fNINETEEN fTWENTY
    fTWENTY-ONE gTWO gTHREE gFOUR gFIVE gSIX gSEVEN gEIGHT gNINE fTHIRTY fTHIRTY-ONE aSQUARE_GAL
    4DC0 aHEXAGRAM_FOR_THE_CREATIVE_HEAVEN dRECEPTIVE_EARTH cDIFFICULTY_AT_THE_BEGINNING
    cYOUTHFUL_FOLLY cWAITING cCONFLICT cTHE_ARMY cHOLDING_TOGETHER cSMALL_TAMING cTREADING cPEACE
    cSTANDSTILL cFELLOWSHIP cGREAT_POSSESSION cMODESTY cENTHUSIASM cFOLLOWING cWORK_ON_THE_DECAYED
    cAPPROACH cCONTEMPLATION cBITING_THROUGH cGRACE cSPLITTING_APART cRETURN cINNOCENCE
    cGREAT_TAMING cMOUTH_CORNERS cGREAT_PREPONDERANCE cTHE_ABYSMAL_WATER dCLINGING_FIRE cINFLUENCE
    cDURATION cRETREAT cGREAT_POWER cPROGRESS cDARKENING_OF_THE_LIGHT cTHE_FAMILY cOPPOSITION
    cOBSTRUCTION cDELIVERANCE cDECREASE cINCREASE cBREAKTHROUGH cCOMING_TO_MEET cGATHERING_TOGETHER
    cPUSHING_UPWARD cOPPRESSION cTHE_WELL cREVOLUTION cTHE_CAULDRON dAROUSING_THUNDER
    dKEEPING_STILL_MOUNTAIN cDEVELOPMENT cTHE_MARRYING_MAIDEN cABUNDANCE cTHE_WANDERER dGENTLE_WIND
    dJOYOUS_LAKE cDISPERSION cLIMITATION cINNER_TRUTH cSMALL_PREPONDERANCE cAFTER_COMPLETION
    cBEFORE_b A000 aYI_SYLLABLE_IT cIX cI cIP cIET cIEX cIE cIEP cAT cAX cA cAP cUOX cUO cUOP cOT
    cOX cO cOP cEX cE cWU cBIT cBIX cBI cBIP cBIET cBIEX cBIE cBIEP cBAT cBAX cBA cBAP cBUOX cBUO
    cBUOP cBOT cBOX cBO cBOP cBEX cBE cBEP cBUT cBUX cBU cBUP cBURX cBUR cBYT cBYX cBY cBYP cBYRX
    cBYR cPIT cPIX cPI cPIP cPIEX cPIE cPIEP cPAT cPAX cPA cPAP cPUOX cPUO cPUOP cPOT cPOX cPO cPOP
    cPUT cPUX cPU cPUP cPURX cPUR cPYT cPYX cPY cPYP cPYRX cPYR cBBIT cBBIX cBBI cBBIP cBBIET cBBIEX
    cBBIE cBBIEP cBBAT cBBAX cBBA cBBAP cBBUOX cBBUO cBBUOP cBBOT cBBOX cBBO cBBOP cBBEX cBBE cBBEP
    cBBUT cBBUX cBBU cBBUP cBBURX cBBUR cBBYT cBBYX cBBY cBBYP cNBIT cNBIX cNBI cNBIP cNBIEX cNBIE
    cNBIEP cNBAT cNBAX cNBA cNBAP cNBOT cNBOX cNBO cNBOP cNBUT cNBUX cNBU cNBUP cNBURX cNBUR cNBYT
    cNBYX cNBY cNBYP cNBYRX cNBYR cHMIT cHMIX cHMI cHMIP cHMIEX cHMIE cHMIEP cHMAT cHMAX cHMA cHMAP
    cHMUOX cHMUO cHMUOP cHMOT cHMOX cHMO cHMOP cHMUT cHMUX cHMU cHMUP cHMURX cHMUR cHMYX cHMY cHMYP
    cHMYRX cHMYR cMIT cMIX cMI cMIP cMIEX cMIE cMIEP cMAT cMAX cMA cMAP cMUOT cMUOX cMUO cMUOP cMOT
    cMOX cMO cMOP cMEX cME cMUT cMUX cMU cMUP cMURX cMUR cMYT cMYX cMY cMYP cFIT cFIX cFI cFIP cFAT
    cFAX cFA cFAP cFOX cFO cFOP cFUT cFUX cFU cFUP cFURX cFUR cFYT cFYX cFY cFYP cVIT cVIX cVI cVIP
    cVIET cVIEX cVIE cVIEP cVAT cVAX cVA cVAP cVOT cVOX cVO cVOP cVEX cVEP cVUT cVUX cVU cVUP cVURX
    cVUR cVYT cVYX cVY cVYP cVYRX cVYR cDIT cDIX cDI cDIP cDIEX cDIE cDIEP cDAT cDAX cDA cDAP cDUOX
    cDUO cDOT cDOX cDO cDOP cDEX cDE cDEP cDUT cDUX cDU cDUP cDURX cDUR cTIT cTIX cTI cTIP cTIEX
    cTIE cTIEP cTAT cTAX cTA cTAP cTUOT cTUOX cTUO cTUOP cTOT cTOX cTO cTOP cTEX cTE cTEP cTUT cTUX
    cTU cTUP cTURX cTUR cDDIT cDDIX cDDI cDDIP cDDIEX cDDIE cDDIEP cDDAT cDDAX cDDA cDDAP cDDUOX
    cDDUO cDDUOP cDDOT cDDOX cDDO cDDOP cDDEX cDDE cDDEP cDDUT cDDUX cDDU cDDUP cDDURX cDDUR cNDIT
    cNDIX cNDI cNDIP cNDIEX cNDIE cNDAT cNDAX cNDA cNDAP cNDOT cNDOX cNDO cNDOP cNDEX cNDE cNDEP
    cNDUT cNDUX cNDU cNDUP cNDURX cNDUR cHNIT cHNIX cHNI cHNIP cHNIET cHNIEX cHNIE cHNIEP cHNAT
    cHNAX cHNA cHNAP cHNUOX cHNUO cHNOT cHNOX cHNOP cHNEX cHNE cHNEP cHNUT cNIT cNIX cNI cNIP cNIEX
    cNIE cNIEP cNAX cNA cNAP cNUOX cNUO cNUOP cNOT cNOX cNO cNOP cNEX cNE cNEP cNUT cNUX cNU cNUP
    cNURX cNUR cHLIT cHLIX cHLI cHLIP cHLIEX cHLIE cHLIEP cHLAT cHLAX cHLA cHLAP cHLUOX cHLUO cHLUOP
    cHLOX cHLO cHLOP cHLEX cHLE cHLEP cHLUT cHLUX cHLU cHLUP cHLURX cHLUR cHLYT cHLYX cHLY cHLYP
    cHLYRX cHLYR cLIT cLIX cLI cLIP cLIET cLIEX cLIE cLIEP cLAT cLAX cLA cLAP cLUOT cLUOX cLUO cLUOP
    cLOT cLOX cLO cLOP cLEX cLE cLEP cLUT cLUX cLU cLUP cLURX cLUR cLYT cLYX cLY cLYP cLYRX cLYR
    cGIT cGIX cGI cGIP cGIET cGIEX cGIE cGIEP cGAT cGAX cGA cGAP cGUOT cGUOX cGUO cGUOP cGOT cGOX
    cGO cGOP cGET cGEX cGE cGEP cGUT cGUX cGU cGUP cGURX cGUR cKIT cKIX cKI cKIP cKIEX cKIE cKIEP
    cKAT cKAX cKA cKAP cKUOX cKUO cKUOP cKOT cKOX cKO cKOP cKET cKEX cKE cKEP cKUT cKUX cKU cKUP
    cKURX cKUR cGGIT cGGIX cGGI cGGIEX cGGIE cGGIEP cGGAT cGGAX cGGA cGGAP cGGUOT cGGUOX cGGUO
    cGGUOP cGGOT cGGOX cGGO cGGOP cGGET cGGEX cGGE cGGEP cGGUT cGGUX cGGU cGGUP cGGURX cGGUR cMGIEX
    cMGIE cMGAT cMGAX cMGA cMGAP cMGUOX cMGUO cMGUOP cMGOT cMGOX cMGO cMGOP cMGEX cMGE cMGEP cMGUT
    cMGUX cMGU cMGUP cMGURX cMGUR cHXIT cHXIX cHXI cHXIP cHXIET cHXIEX cHXIE cHXIEP cHXAT cHXAX cHXA
    cHXAP cHXUOT cHXUOX cHXUO cHXUOP cHXOT cHXOX cHXO cHXOP cHXEX cHXE cHXEP cNGIEX cNGIE cNGIEP
    cNGAT cNGAX cNGA cNGAP cNGUOT cNGUOX cNGUO cNGOT cNGOX cNGO cNGOP cNGEX cNGE cNGEP cHIT cHIEX
    cHIE cHAT cHAX cHA cHAP cHUOT cHUOX cHUO cHUOP cHOT cHOX cHO cHOP cHEX cHE cHEP cWAT cWAX cWA
    cWAP cWUOX cWUO cWUOP cWOX cWO cWOP cWEX cWE cWEP cZIT cZIX cZI cZIP cZIEX cZIE cZIEP cZAT cZAX
    cZA cZAP cZUOX cZUO cZUOP cZOT cZOX cZO cZOP cZEX cZE cZEP cZUT cZUX cZU cZUP cZURX cZUR cZYT
    cZYX cZY cZYP cZYRX cZYR cCIT cCIX cCI cCIP cCIET cCIEX cCIE cCIEP cCAT cCAX cCA cCAP cCUOX cCUO
    cCUOP cCOT cCOX cCO cCOP cCEX cCE cCEP cCUT cCUX cCU cCUP cCURX cCUR cCYT cCYX cCY cCYP cCYRX
    cCYR cZZIT cZZIX cZZI cZZIP cZZIET cZZIEX cZZIE cZZIEP cZZAT cZZAX cZZA cZZAP cZZOX cZZO cZZOP
    cZZEX cZZE cZZEP cZZUX cZZU cZZUP cZZURX cZZUR cZZYT cZZYX cZZY cZZYP cZZYRX cZZYR cNZIT cNZIX
    cNZI cNZIP cNZIEX cNZIE cNZIEP cNZAT cNZAX cNZA cNZAP cNZUOX cNZUO cNZOX cNZOP cNZEX cNZE cNZUX
    cNZU cNZUP cNZURX cNZUR cNZYT cNZYX cNZY cNZYP cNZYRX cNZYR cSIT cSIX cSI cSIP cSIEX cSIE cSIEP
    cSAT cSAX cSA cSAP cSUOX cSUO cSUOP cSOT cSOX cSO cSOP cSEX cSE cSEP cSUT cSUX cSU cSUP cSURX
    cSUR cSYT cSYX cSY cSYP cSYRX cSYR cSSIT cSSIX cSSI cSSIP cSSIEX cSSIE cSSIEP cSSAT cSSAX cSSA
    cSSAP cSSOT cSSOX cSSO cSSOP cSSEX cSSE cSSEP cSSUT cSSUX cSSU cSSUP cSSYT cSSYX cSSY cSSYP
    cSSYRX cSSYR cZHAT cZHAX cZHA cZHAP cZHUOX cZHUO cZHUOP cZHOT cZHOX cZHO cZHOP cZHET cZHEX cZHE
    cZHEP cZHUT cZHUX cZHU cZHUP cZHURX cZHUR cZHYT cZHYX cZHY cZHYP cZHYRX cZHYR cCHAT cCHAX cCHA
    cCHAP cCHUOT cCHUOX cCHUO cCHUOP cCHOT cCHOX cCHO cCHOP cCHET cCHEX cCHE cCHEP cCHUX cCHU cCHUP
    cCHURX cCHUR cCHYT cCHYX cCHY cCHYP cCHYRX cCHYR cRRAX cRRA cRRUOX cRRUO cRROT cRROX cRRO cRROP
    cRRET cRREX cRRE cRREP cRRUT cRRUX cRRU cRRUP cRRURX cRRUR cRRYT cRRYX cRRY cRRYP cRRYRX cRRYR
    cNRAT cNRAX cNRA cNRAP cNROX cNRO cNROP cNRET cNREX cNRE cNREP cNRUT cNRUX cNRU cNRUP cNRURX
    cNRUR cNRYT cNRYX cNRY cNRYP cNRYRX cNRYR cSHAT cSHAX cSHA cSHAP cSHUOX cSHUO cSHUOP cSHOT cSHOX
    cSHO cSHOP cSHET cSHEX cSHE cSHEP cSHUT cSHUX cSHU cSHUP cSHURX cSHUR cSHYT cSHYX cSHY cSHYP
    cSHYRX cSHYR cRAT cRAX cRA cRAP cRUOX cRUO cRUOP cROT cROX cRO cROP cREX cRE cREP cRUT cRUX cRU
    cRUP cRURX cRUR cRYT cRYX cRY cRYP cRYRX cRYR cJIT cJIX cJI cJIP cJIET cJIEX cJIE cJIEP cJUOT
    cJUOX cJUO cJUOP cJOT cJOX cJO cJOP cJUT cJUX cJU cJUP cJURX cJUR cJYT cJYX cJY cJYP cJYRX cJYR
    cQIT cQIX cQI cQIP cQIET cQIEX cQIE cQIEP cQUOT cQUOX cQUO cQUOP cQOT cQOX cQO cQOP cQUT cQUX
    cQU cQUP cQURX cQUR cQYT cQYX cQY cQYP cQYRX cQYR cJJIT cJJIX cJJI cJJIP cJJIET cJJIEX cJJIE
    cJJIEP cJJUOX cJJUO cJJUOP cJJOT cJJOX cJJO cJJOP cJJUT cJJUX cJJU cJJUP cJJURX cJJUR cJJYT
    cJJYX cJJY cJJYP cNJIT cNJIX cNJI cNJIP cNJIET cNJIEX cNJIE cNJIEP cNJUOX cNJUO cNJOT cNJOX cNJO
    cNJOP cNJUX cNJU cNJUP cNJURX cNJUR cNJYT cNJYX cNJY cNJYP cNJYRX cNJYR cNYIT cNYIX cNYI cNYIP
    cNYIET cNYIEX cNYIE cNYIEP cNYUOX cNYUO cNYUOP cNYOT cNYOX cNYO cNYOP cNYUT cNYUX cNYU cNYUP
    cXIT cXIX cXI cXIP cXIET cXIEX cXIE cXIEP cXUOX cXUO cXOT cXOX cXO cXOP cXYT cXYX cXY cXYP cXYRX
    cXYR cYIT cYIX cYI cYIP cYIET cYIEX cYIE cYIEP cYUOT cYUOX cYUO cYUOP cYOT cYOX cYO cYOP cYUT
    cYUX cYU cYUP cYURX cYUR cYYT cYYX cYY cYYP cYYRX cYYR A490 bRADICAL_QOT cLI cKIT cNYIP cCYP
    cSSI cGGOP cGEP cMI cHXIT cLYR cBBUT cMOP cYO cPUT cHXUO cTAT cGA cZUP cCYT cDDUR cBUR cGGUO
    cNYOP cTU cOP cJJUT cZOT cPYT cHMO cYIT cVUR cSHY cVEP cZA cJO cNZUP cJJY cGOT cJJIE cWO cDU
    cSHUR cLIE cCY cCUOP cCIP cHXOP cSHAT cZUR cSHOP cCHE cZZIET cNBIE cKE A4D0 aLISU_LETTER_BA cPA
    cPHA cDA cTA cTHA cGA cKA cKHA cJA cCA cCHA cDZA cTSA cTSHA cMA cNA cLA cSA cZHA cZA cNGA cHA
    cXA cHHA cFA cWA cSHA cYA cGHA cA cAE cE cEU cI cO cU cUE cUH cOE cTONE_MYA_TI dNA_PO dMYA_CYA
    eBO eNA eJEU bPUNCTUATION_COMMA cFULL_STOP aVAI_SYLLABLE_EE cEEN cHEE cWEE cWEEN cPEE cBHEE cBEE
    cMBEE cKPEE cMGBEE cGBEE cFEE cVEE cTEE cTHEE cDHEE cDHHEE cLEE cREE cDEE cNDEE cSEE cSHEE cZEE
    cZHEE cCEE cJEE cNJEE cYEE cKEE cNGGEE cGEE cMEE cNEE cNYEE cI cIN cHI cHIN cWI cWIN cPI cBHI
    cBI cMBI cKPI cMGBI cGBI cFI cVI cTI cTHI cDHI cDHHI cLI cRI cDI cNDI cSI cSHI cZI cZHI cCI cJI
    cNJI cYI cKI cNGGI cGI cMI cNI cNYI cA cAN cNGAN cHA cHAN cWA cWAN cPA cBHA cBA cMBA cKPA cKPAN
    cMGBA cGBA cFA cVA cTA cTHA cDHA cDHHA cLA cRA cDA cNDA cSA cSHA cZA cZHA cCA cJA cNJA cYA cKA
    cKAN cNGGA cGA cMA cNA cNYA cOO cOON cHOO cWOO cWOON cPOO cBHOO cBOO cMBOO cKPOO cMGBOO cGBOO
    cFOO cVOO cTOO cTHOO cDHOO cDHHOO cLOO cROO cDOO cNDOO cSOO cSHOO cZOO cZHOO cCOO cJOO cNJOO
    cYOO cKOO cNGGOO cGOO cMOO cNOO cNYOO cU cUN cHU cHUN cWU cWUN cPU cBHU cBU cMBU cKPU cMGBU cGBU
    cFU cVU cTU cTHU cDHU cDHHU cLU cRU cDU cNDU cSU cSHU cZU cZHU cCU cJU cNJU cYU cKU cNGGU cGU
    cMU cNU cNYU cO cON cNGON cHO cHON cWO cWON cPO cBHO cBO cMBO cKPO cMGBO cGBO cGBON cFO cVO cTO
    cTHO cDHO cDHHO cLO cRO cDO cNDO cSO cSHO cZO cZHO cCO cJO cNJO cYO cKO cNGGO cGO cMO cNO cNYO
    cE cEN cNGEN cHE cHEN cWE cWEN cPE cBHE cBE cMBE cKPE cKPEN cMGBE cGBE cGBEN cFE cVE cTE cTHE
    cDHE cDHHE cLE cRE cDE cNDE cSE cSHE cZE cZHE cCE cJE cNJE cYE cKE cNGGE cNGGEN cGE cGEN cME cNE
    cNYE cNG cLENGTHENER bCOMMA bFULL_STOP bQUESTION_MARK bSYLLABLE_NDOLE_FA dKA dSOO bSYMBOL_FEENG
    cKEENG cTING cNII cBANG cFAA cTAA cDANG cDOONG cKUNG cTONG cDO-O cJONG bDIGIT_ZERO cONE cTWO
    cTHREE cFOUR cFIVE cSIX cSEVEN cEIGHT cNINE bSYLLABLE_NDOLE_MA dDO A640
    aCYRILLIC_CAPITAL_LETTER_ZEMLYA bSMALL_c bCAPITAL_LETTER_DZELO bSMALL_c
    bCAPITAL_LETTER_REVERSED_DZE bSMALL_d bCAPITAL_LETTER_IOTA bSMALL_c bCAPITAL_LETTER_DJERV
    bSMALL_c bCAPITAL_LETTER_MONOGRAPH_UK bSMALL_d bCAPITAL_LETTER_BROAD_OMEGA bSMALL_d
    bCAPITAL_LETTER_NEUTRAL_YER bSMALL_d bCAPITAL_LETTER_YERU_WITH_BACK_b bSMALL_f
    bCAPITAL_LETTER_IOTIFIED_YAT bSMALL_d bCAPITAL_LETTER_REVERSED_YU bSMALL_d
    bCAPITAL_LETTER_IOTIFIED_A bSMALL_d bCAPITAL_LETTER_CLOSED_LITTLE_YUS bSMALL_e
    bCAPITAL_LETTER_BLENDED_b bSMALL_d bCAPITAL_LETTER_IOTIFIED_CLOSED_LITTLE_b bSMALL_f
    bCAPITAL_LETTER_YN bSMALL_c bCAPITAL_LETTER_REVERSED_TSE bSMALL_d bCAPITAL_LETTER_SOFT_DE
    bSMALL_d bCAPITAL_LETTER_SOFT_EL bSMALL_d bCAPITAL_LETTER_SOFT_EM bSMALL_d
    bCAPITAL_LETTER_MONOCULAR_O bSMALL_d bCAPITAL_LETTER_BINOCULAR_b bSMALL_d
    bCAPITAL_LETTER_DOUBLE_MONOCULAR_b bSMALL_e bLETTER_MULTIOCULAR_b aCOMBINING_CYRILLIC_VZMET
    cTEN_MILLIONS_SIGN cHUNDRED_c cTHOUSAND_c aSLAVONIC_ASTERISK
    aCOMBINING_CYRILLIC_LETTER_UKRAINIAN_IE dI dYI dU dHARD_SIGN dYERU dSOFT_SIGN dOMEGA cKAVYKA
    cPAYEROK aCYRILLIC_KAVYKA bPAYEROK bCAPITAL_LETTER_DWE bSMALL_c bCAPITAL_LETTER_DZWE bSMALL_c
    bCAPITAL_LETTER_ZHWE bSMALL_c bCAPITAL_LETTER_CCHE bSMALL_c bCAPITAL_LETTER_DZZE bSMALL_c
    bCAPITAL_LETTER_TE_WITH_MIDDLE_HOOK bSMALL_f bCAPITAL_LETTER_TWE bSMALL_c bCAPITAL_LETTER_TSWE
    bSMALL_c bCAPITAL_LETTER_TSSE bSMALL_c bCAPITAL_LETTER_TCHE bSMALL_c bCAPITAL_LETTER_HWE
    bSMALL_c bCAPITAL_LETTER_SHWE bSMALL_c bCAPITAL_LETTER_DOUBLE_O bSMALL_d
    bCAPITAL_LETTER_CROSSED_b bSMALL_d aMODIFIER_LETTER_CYRILLIC_HARD_SIGN dSOFT_b
    aCOMBINING_CYRILLIC_LETTER_EF dIOTIFIED_E aBAMUM_LETTER_A cKA cU cKU cEE cREE cTAE cO cNYI cI
    cLA cPA cRII cRIEE cLEEEE cMEEEE cTAA cNDAA cNJAEM cM cSUU cMU cSHII cSI cSHEUX cSEUX cKYEE cKET
    cNUAE cNU cNJUAE cYOQ cSHU cYUQ cYA cNSHA cKEUX cPEUX cNJEE cNTEE cPUE cWUE cPEE cFEE cRU cLU
    cMI cNI cREUX cRAE cKEN cNGKWAEN cNGGA cNGA cSHO cPUAE cFU cFOM cWA cNA cLI cPI cLOQ cKO cMBEN
    cREN cMEN cMA cTI cKI cMO cMBAA cTET cKPA cTEN cNTUU cSAMBA cFAAMAE cKOVUU cKOGHOM
    bCOMBINING_MARK_KOQNDON dTUKWENTIS bNJAEMLI bFULL_STOP bCOLON bCOMMA bSEMICOLON bQUESTION_MARK
    A700 aMODIFIER_LETTER_CHINESE_TONE_YIN_PING eYANG_b eYIN_SHANG eYANG_b eYIN_QU eYANG_b eYIN_RU
    eYANG_b cEXTRA-HIGH_DOTTED_TONE_BAR ce cMID_d cLOW_d cEXTRA-e dHIGH_DOTTED_LEFT-STEM_c cg cMID_f
    cLOW_f cEXTRA-g dHIGH_e cf cMID_e cLOW_e cEXTRA-f cDOT_VERTICAL_b dSLASH dHORIZONTAL_BAR
    cLOWER_RIGHT_CORNER_ANGLE cRAISED_UP_ARROW dDOWN_b dEXCLAMATION_MARK dINVERTED_c cLOW_d
    cSTRESS_AND_HIGH_TONE eLOW_b aLATIN_CAPITAL_LETTER_EGYPTOLOGICAL_ALEF bSMALL_d
    bCAPITAL_LETTER_EGYPTOLOGICAL_AIN bSMALL_d bCAPITAL_LETTER_HENG bSMALL_c bCAPITAL_LETTER_TZ
    bSMALL_c bCAPITAL_LETTER_TRESILLO bSMALL_c bCAPITAL_LETTER_CUATRILLO bSMALL_c
    bCAPITAL_LETTER_CUATRILLO_WITH_COMMA bSMALL_e bLETTER_SMALL_CAPITAL_F eS bCAPITAL_LETTER_AA
    bSMALL_c bCAPITAL_LETTER_AO bSMALL_c bCAPITAL_LETTER_AU bSMALL_c bCAPITAL_LETTER_AV bSMALL_c
    bCAPITAL_LETTER_AV_WITH_HORIZONTAL_BAR bSMALL_f bCAPITAL_LETTER_AY bSMALL_c
    bCAPITAL_LETTER_REVERSED_C_WITH_DOT bSMALL_f bCAPITAL_LETTER_K_WITH_STROKE bSMALL_e
    bCAPITAL_LETTER_K_WITH_DIAGONAL_b bSMALL_f bCAPITAL_LETTER_K_WITH_STROKE_AND_c bSMALL_h
    bCAPITAL_LETTER_BROKEN_L bSMALL_d bCAPITAL_LETTER_L_WITH_HIGH_STROKE bSMALL_f
    bCAPITAL_LETTER_O_WITH_LONG_STROKE_OVERLAY bSMALL_g bCAPITAL_LETTER_O_WITH_LOOP bSMALL_e
    bCAPITAL_LETTER_OO bSMALL_c bCAPITAL_LETTER_P_WITH_STROKE_THROUGH_DESCENDER bSMALL_g
    bCAPITAL_LETTER_P_WITH_FLOURISH bSMALL_e bCAPITAL_LETTER_P_WITH_SQUIRREL_TAIL bSMALL_f
    bCAPITAL_LETTER_Q_WITH_STROKE_THROUGH_DESCENDER bSMALL_g bCAPITAL_LETTER_Q_WITH_DIAGONAL_STROKE
    bSMALL_f bCAPITAL_LETTER_R_ROTUNDA bSMALL_d bCAPITAL_LETTER_RUM_b bSMALL_d
    bCAPITAL_LETTER_V_WITH_DIAGONAL_STROKE bSMALL_f bCAPITAL_LETTER_VY bSMALL_c
    bCAPITAL_LETTER_VISIGOTHIC_Z bSMALL_d bCAPITAL_LETTER_THORN_WITH_STROKE bSMALL_e
    bCAPITAL_LETTER_THORN_WITH_STROKE_THROUGH_DESCENDER bSMALL_g bCAPITAL_LETTER_VEND bSMALL_c
    bCAPITAL_LETTER_ET bSMALL_c bCAPITAL_LETTER_IS bSMALL_c bCAPITAL_LETTER_CON bSMALL_c
    aMODIFIER_LETTER_US aLATIN_SMALL_LETTER_DUM dLUM dMUM dNUM dRUM bLETTER_SMALL_CAPITAL_b
    bSMALL_LETTER_TUM dUM bCAPITAL_LETTER_INSULAR_D bSMALL_d bCAPITAL_LETTER_INSULAR_F bSMALL_d
    bCAPITAL_LETTER_INSULAR_G dTURNED_c bSMALL_e bCAPITAL_LETTER_TURNED_L bSMALL_d
    bCAPITAL_LETTER_INSULAR_R bSMALL_d bCAPITAL_LETTER_INSULAR_S bSMALL_d bCAPITAL_LETTER_INSULAR_T
    bSMALL_d aMODIFIER_LETTER_LOW_CIRCUMFLEX_ACCENT cCOLON cSHORT_EQUALS_SIGN
    aLATIN_CAPITAL_LETTER_SALTILLO bSMALL_c bCAPITAL_LETTER_TURNED_H
    bSMALL_LETTER_L_WITH_RETROFLEX_HOOK_AND_BELT bLETTER_SINOLOGICAL_DOT
    bCAPITAL_LETTER_N_WITH_DESCENDER bSMALL_e bCAPITAL_LETTER_C_WITH_BAR bSMALL_e fPALATAL_HOOK dH_d
    bCAPITAL_LETTER_B_WITH_FLOURISH bSMALL_e bCAPITAL_LETTER_F_WITH_STROKE bSMALL_e
    bCAPITAL_LETTER_VOLAPUK_AE bSMALL_d bCAPITAL_LETTER_VOLAPUK_OE bSMALL_d
    bCAPITAL_LETTER_VOLAPUK_UE bSMALL_d bCAPITAL_LETTER_G_WITH_OBLIQUE_STROKE bSMALL_f
    bCAPITAL_LETTER_K_d bSMALL_f bCAPITAL_LETTER_N_d bSMALL_f bCAPITAL_LETTER_R_d bSMALL_f
    bCAPITAL_LETTER_S_d bSMALL_f bCAPITAL_LETTER_H_WITH_HOOK dREVERSED_OPEN_E dSCRIPT_G dL_WITH_BELT
    dSMALL_CAPITAL_I bLETTER_SMALL_CAPITAL_Q bCAPITAL_LETTER_TURNED_K eT dJ_WITH_CROSSED-TAIL dCHI
    dBETA bSMALL_c bCAPITAL_LETTER_OMEGA bSMALL_c bCAPITAL_LETTER_U_WITH_STROKE bSMALL_e
    bCAPITAL_LETTER_GLOTTAL_A bSMALL_d bCAPITAL_LETTER_GLOTTAL_I bSMALL_d bCAPITAL_LETTER_GLOTTAL_U
    bSMALL_d bCAPITAL_LETTER_OLD_POLISH_O bSMALL_e bCAPITAL_LETTER_ANGLICANA_W bSMALL_d
    bCAPITAL_LETTER_C_WITH_PALATAL_HOOK dS_WITH_b dZ_WITH_PALATAL_b dD_WITH_SHORT_STROKE_OVERLAY
    bSMALL_g bCAPITAL_LETTER_S_e bSMALL_g A7D0 bCAPITAL_LETTER_CLOSED_INSULAR_G bSMALL_e A7D3
    dDOUBLE_THORN A7D5 eWYNN bCAPITAL_LETTER_MIDDLE_SCOTS_S bSMALL_e bCAPITAL_LETTER_SIGMOID_b
    bSMALL_d A7F2 aMODIFIER_LETTER_CAPITAL_C dF dQ aLATIN_CAPITAL_LETTER_REVERSED_HALF_H bSMALL_e
    bEPIGRAPHIC_LETTER_SIDEWAYS_I aMODIFIER_LETTER_CAPITAL_H_WITH_STROKE cSMALL_LIGATURE_OE
    aLATIN_LETTER_SMALL_CAPITAL_TURNED_M bEPIGRAPHIC_LETTER_REVERSED_F eP dINVERTED_M dI_LONGA
    dARCHAIC_M aSYLOTI_NAGRI_LETTER_A dI cSIGN_DVISVARA cLETTER_U dE dO cSIGN_HASANTA cLETTER_KO
    dKHO dGO dGHO cSIGN_ANUSVARA cLETTER_CO dCHO dJO dJHO dTTO dTTHO dDDO dDDHO dTO dTHO dDO dDHO
    dNO dPO dPHO dBO dBHO dMO dRO dLO dRRO dSO dHO cVOWEL_SIGN_A eI eU eE eOO cPOETRY_MARK-1 e2 e3
    e4 cSIGN_ALTERNATE_HASANTA A830 aNORTH_INDIC_FRACTION_ONE_QUARTER eHALF dTHREE_QUARTERS
    dONE_SIXTEENTH eEIGHTH dTHREE_SIXTEENTHS cQUARTER_MARK cPLACEHOLDER_b cRUPEE_b cQUANTITY_b A840
    aPHAGS-PA_LETTER_KA dKHA dGA dNGA dCA dCHA dJA dNYA dTA dTHA dDA dNA dPA dPHA dBA dMA dTSA dTSHA
    dDZA dWA dZHA dZA dSMALL_A dYA dRA dLA dSHA dSA dHA dA dI dU dE dO dQA dXA dFA dGGA dEE
    cSUBJOINED_LETTER_WA eYA cLETTER_TTA dTTHA dDDA dNNA dALTERNATE_YA dVOICELESS_SHA dVOICED_HA
    dASPIRATED_FA cSUBJOINED_LETTER_RA cSUPERFIXED_c cLETTER_CANDRABINDU cSINGLE_HEAD_MARK cDOUBLE_c
    cMARK_SHAD dDOUBLE_b A880 aSAURASHTRA_SIGN_ANUSVARA cVISARGA bLETTER_A cAA cI cII cU cUU
    cVOCALIC_R dRR dL dLL cE cEE cAI cO cOO cAU cKA cKHA cGA cGHA cNGA cCA cCHA cJA cJHA cNYA cTTA
    cTTHA cDDA cDDHA cNNA cTA cTHA cDA cDHA cNA cPA cPHA cBA cBHA cMA cYA cRA cLA cVA cSHA cSSA cSA
    cHA cLLA bCONSONANT_SIGN_HAARU bVOWEL_SIGN_AA dI dII dU dUU dVOCALIC_R eRR eL eLL dE dEE dAI dO
    dOO dAU bSIGN_VIRAMA cCANDRABINDU A8CE bDANDA bDOUBLE_b bDIGIT_ZERO cONE cTWO cTHREE cFOUR cFIVE
    cSIX cSEVEN cEIGHT cNINE A8E0 aCOMBINING_DEVANAGARI_DIGIT_ZERO dONE dTWO dTHREE dFOUR dFIVE dSIX
    dSEVEN dEIGHT dNINE cLETTER_A dU dKA dNA dPA dRA dVI cSIGN_AVAGRAHA
    aDEVANAGARI_SIGN_SPACING_CANDRABINDU cCANDRABINDU_VIRAMA cDOUBLE_c cCANDRABINDU_TWO dTHREE
    dAVAGRAHA cPUSHPIKA bGAP_FILLER bCARET bHEADSTROKE bSIGN_SIDDHAM bJAIN_OM bLETTER_AY
    bVOWEL_SIGN_b aKAYAH_LI_DIGIT_ZERO dONE dTWO dTHREE dFOUR dFIVE dSIX dSEVEN dEIGHT dNINE
    cLETTER_KA dKHA dGA dNGA dSA dSHA dZA dNYA dTA dHTA dNA dPA dPHA dMA dDA dBA dRA dYA dLA dWA
    dTHA dHA dVA dCA dA dOE dI dOO cVOWEL_UE dE dU dEE dO cTONE_PLOPHU dCALYA dCALYA_PLOPHU
    cSIGN_CWI dSHYA aREJANG_LETTER_KA cGA cNGA cTA cDA cNA cPA cBA cMA cCA cJA cNYA cSA cRA cLA cYA
    cWA cHA cMBA cNGGA cNDA cNYJA cA bVOWEL_SIGN_I dU dE dAI dO dAU dEU dEA bCONSONANT_SIGN_NG dN dR
    dH bVIRAMA A95F bSECTION_MARK aHANGUL_CHOSEONG_TIKEUT-MIEUM dPIEUP dSIOS dCIEUC cRIEUL-KIYEOK
    dSSANGKIYEOK dTIKEUT dSSANGTIKEUT dMIEUM dPIEUP dSSANGPIEUP dKAPYEOUNPIEUP dSIOS dCIEUC dKHIEUKH
    cMIEUM-KIYEOK dTIKEUT dSIOS cPIEUP-SIOS-THIEUTH dKHIEUKH dHIEUH cSSANGSIOS-PIEUP cIEUNG-RIEUL
    dHIEUH cSSANGCIEUC-b cSSANGTHIEUTH cPHIEUPH-HIEUH cHIEUH-SIOS cSSANGYEORINHIEUH A980
    aJAVANESE_SIGN_PANYANGGA cCECAK cLAYAR cWIGNYAN bLETTER_A cI_KAWI cI cII cU cPA_CEREK cNGA_LELET
    dLELET_RASWADI cE cAI cO cKA cKA_SASAK dMURDA cGA cGA_MURDA cNGA cCA cCA_MURDA cJA cNYA_MURDA
    cJA_MAHAPRANA cNYA cTTA cTTA_MAHAPRANA cDDA cDDA_MAHAPRANA cNA_MURDA cTA cTA_MURDA cDA
    cDA_MAHAPRANA cNA cPA cPA_MURDA cBA cBA_MURDA cMA cYA cRA cRA_AGUNG cLA cWA cSA_MURDA dMAHAPRANA
    cSA cHA bSIGN_CECAK_TELU bVOWEL_SIGN_TARUNG dTOLONG dWULU dWULU_MELIK dSUKU dSUKU_MENDUT dTALING
    dDIRGA_MURE dPEPET bCONSONANT_SIGN_KERET dPENGKAL dCAKRA bPANGKON bLEFT_RERENGGAN bRIGHT_b
    bPADA_ANDAP cMADYA cLUHUR cWINDU cPANGKAT cLINGSA cLUNGSI cADEG cADEG_b cPISELEH bTURNED_c A9CF
    bPANGRANGKEP bDIGIT_ZERO cONE cTWO cTHREE cFOUR cFIVE cSIX cSEVEN cEIGHT cNINE A9DE
    bPADA_TIRTA_TUMETES cISEN-ISEN aMYANMAR_LETTER_SHAN_GHA dCHA dJHA dNNA dBHA bSIGN_SHAN_SAW
    bMODIFIER_LETTER_SHAN_REDUPLICATION bLETTER_TAI_LAING_NYA eFA eGA eGHA eJA eJHA eDDA eDDHA eNNA
    bTAI_LAING_DIGIT_ZERO eONE eTWO eTHREE eFOUR eFIVE eSIX eSEVEN eEIGHT eNINE
    bLETTER_TAI_LAING_LLA eDA eDHA eBA eBHA AA00 aCHAM_LETTER_A cI cU cE cAI cO cKA cKHA cGA cGHA
    cNGUE cNGA cCHA cCHHA cJA cJHA cNHUE cNHA cNHJA cTA cTHA cDA cDHA cNUE cNA cDDA cPA cPPA cPHA
    cBA cBHA cMUE cMA cBBA cYA cRA cLA cVA cSSA cSA cHA bVOWEL_SIGN_AA dI dII dEI dU dOE dO dAI dAU
    dUE bCONSONANT_SIGN_YA dRA dLA dWA AA40 bLETTER_FINAL_K dG dNG bCONSONANT_SIGN_c
    bLETTER_FINAL_CH dT dN dP dY dR dL dSS bCONSONANT_SIGN_FINAL_M eH AA50 bDIGIT_ZERO cONE cTWO
    cTHREE cFOUR cFIVE cSIX cSEVEN cEIGHT cNINE AA5C bPUNCTUATION_SPIRAL cDANDA cDOUBLE_b cTRIPLE_b
    aMYANMAR_LETTER_KHAMTI_GA dCA dCHA dJA dJHA dNYA dTTA dTTHA dDDA dDDHA dDHA dNA dSA dHA dHHA dFA
    bMODIFIER_LETTER_KHAMTI_REDUPLICATION bLETTER_KHAMTI_XA dZA dRA bLOGOGRAM_KHAMTI_OAY dQN dHM
    bSYMBOL_AITON_EXCLAMATION dONE dTWO bLETTER_AITON_RA bSIGN_PAO_KAREN_TONE cTAI_LAING_TONE-2 f5
    bLETTER_SHWE_PALAUNG_CHA eSHA aTAI_VIET_LETTER_LOW_KO dHIGH_b dLOW_KHO dHIGH_b dLOW_KHHO dHIGH_b
    dLOW_GO dHIGH_b dLOW_NGO dHIGH_b dLOW_CO dHIGH_b dLOW_CHO dHIGH_b dLOW_SO dHIGH_b dLOW_NYO
    dHIGH_b dLOW_DO dHIGH_b dLOW_TO dHIGH_b dLOW_THO dHIGH_b dLOW_NO dHIGH_b dLOW_BO dHIGH_b dLOW_PO
    dHIGH_b dLOW_PHO dHIGH_b dLOW_FO dHIGH_b dLOW_MO dHIGH_b dLOW_YO dHIGH_b dLOW_RO dHIGH_b dLOW_LO
    dHIGH_b dLOW_VO dHIGH_b dLOW_HO dHIGH_b dLOW_O dHIGH_b cMAI_KANG cVOWEL_AA dI dUE dU dE dO
    cMAI_KHIT cVOWEL_IA dUEA dUA dAUE dAY dAN dAM cTONE_MAI_EK eNUENG eTHO eSONG AADB cSYMBOL_KON
    dNUENG dSAM dHO_HOI dKOI_KOI aMEETEI_MAYEK_LETTER_E dO dCHA dNYA dTTA dTTHA dDDA dDDHA dNNA dSHA
    dSSA cVOWEL_SIGN_II eUU eAAI eAU eAAU cCHEIKHAN cAHANG_KHUDAM cANJI cSYLLABLE_REPETITION_MARK
    cWORD_c cVOWEL_SIGN_VISARGA cVIRAMA AB01 aETHIOPIC_SYLLABLE_TTHU cTTHI cTTHAA cTTHEE cTTHE cTTHO
    AB09 cDDHU cDDHI cDDHAA cDDHEE cDDHE cDDHO AB11 cDZU cDZI cDZAA cDZEE cDZE cDZO AB20 cCCHHA
    cCCHHU cCCHHI cCCHHAA cCCHHEE cCCHHE cCCHHO AB28 cBBA cBBU cBBI cBBAA cBBEE cBBE cBBO AB30
    aLATIN_SMALL_LETTER_BARRED_ALPHA dA_REVERSED-SCHWA dBLACKLETTER_E dBARRED_b dE_WITH_FLOURISH
    dLENIS_F dSCRIPT_G_WITH_CROSSED-TAIL dL_WITH_INVERTED_LAZY_S fDOUBLE_MIDDLE_TILDE fMIDDLE_RING
    dM_WITH_CROSSED-TAIL dN_d dENG_d dBLACKLETTER_O eO_WITH_STROKE dOPEN_d dINVERTED_OE
    dTURNED_OE_WITH_STROKE gHORIZONTAL_b eO_OPEN-O gO_WITH_STROKE dSTIRRUP_R
    bLETTER_SMALL_CAPITAL_R_WITH_RIGHT_LEG bSMALL_LETTER_R_WITHOUT_HANDLE dDOUBLE_R
    dR_WITH_CROSSED-TAIL dDOUBLE_e dSCRIPT_R eR_WITH_RING dBASELINE_ESH dU_WITH_SHORT_RIGHT_LEG
    eBAR_e dUI dTURNED_b dU_WITH_LEFT_HOOK dCHI dCHI_WITH_LOW_RIGHT_RING gLEFT_SERIF
    dX_WITH_LOW_RIGHT_RING fLONG_LEFT_LEG hLEG_AND_LOW_RIGHT_RING iWITH_SERIF
    dY_WITH_SHORT_RIGHT_LEG aMODIFIER_BREVE_WITH_INVERTED_BREVE bLETTER_SMALL_HENG
    dL_WITH_INVERTED_LAZY_S fMIDDLE_TILDE dU_WITH_LEFT_HOOK aLATIN_SMALL_LETTER_SAKHA_YAT
    dIOTIFIED_E dOPEN_OE dUO dINVERTED_ALPHA aGREEK_LETTER_SMALL_CAPITAL_OMEGA
    aLATIN_SMALL_LETTER_DZ_DIGRAPH_WITH_RETROFLEX_HOOK dTS_e dTURNED_R_WITH_MIDDLE_TILDE
    aMODIFIER_LETTER_SMALL_TURNED_W cLEFT_TACK cRIGHT_b AB70 aCHEROKEE_SMALL_LETTER_A dE dI dO dU dV
    dGA dKA dGE dGI dGO dGU dGV dHA dHE dHI dHO dHU dHV dLA dLE dLI dLO dLU dLV dMA dME dMI dMO dMU
    dNA dHNA dNAH dNE dNI dNO dNU dNV dQUA dQUE dQUI dQUO dQUU dQUV dSA dS dSE dSI dSO dSU dSV dDA
    dTA dDE dTE dDI dTI dDO dDU dDV dDLA dTLA dTLE dTLI dTLO dTLU dTLV dTSA dTSE dTSI dTSO dTSU dTSV
    dWA dWE dWI dWO dWU dWV dYA aMEETEI_MAYEK_LETTER_KOK dSAM dLAI dMIT dPA dNA dCHIL dTIL dKHOU
    dNGOU dTHOU dWAI dYANG dHUK dUN dI dPHAM dATIYA dGOK dJHAM dRAI dBA dJIL dDIL dGHOU dDHOU dBHAM
    dKOK_LONSUM dLAI_b dMIT_b dPA_b dNA_b dTIL_b dNGOU_b dI_b cVOWEL_SIGN_ONAP eINAP eANAP eYENAP
    eSOUNAP eUNAP eCHEINAP eNUNG cCHEIKHEI cLUM_IYEK cAPUN_b ABF0 cDIGIT_ZERO dONE dTWO dTHREE dFOUR
    dFIVE dSIX dSEVEN dEIGHT dNINE D7B0 aHANGUL_JUNGSEONG_O-YEO dO-I cYO-A dAE dEO cU-YEO dI-I
    cYU-AE dO cEU-A dEO dE dO cI-YA-b dYAE dYEO dYE dO-I dYO dYU dI cARAEA-A dE D7CB
    bJONGSEONG_NIEUN-RIEUL dCHIEUCH cSSANGTIKEUT cSSANGTIKEUT-PIEUP cTIKEUT-b dSIOS dSIOS-KIYEOK
    dCIEUC dCHIEUCH dTHIEUTH cRIEUL-SSANGKIYEOK dKIYEOK-HIEUH cSSANGRIEUL-KHIEUKH cRIEUL-MIEUM-HIEUH
    dPIEUP-TIKEUT ePHIEUPH dYESIEUNG dYEORINHIEUH-HIEUH cKAPYEOUNRIEUL cMIEUM-NIEUN dSSANGNIEUN
    cSSANGMIEUM cMIEUM-PIEUP-SIOS dCIEUC cPIEUP-TIKEUT dRIEUL-PHIEUPH dMIEUM cSSANGPIEUP
    cPIEUP-SIOS-TIKEUT dCIEUC dCHIEUCH cSIOS-MIEUM dKAPYEOUNPIEUP cSSANGSIOS-KIYEOK dTIKEUT
    cSIOS-PANSIOS dCIEUC dCHIEUCH dTHIEUTH dHIEUH cPANSIOS-PIEUP dKAPYEOUNPIEUP cYESIEUNG-MIEUM
    dHIEUH cCIEUC-PIEUP dSSANGPIEUP cSSANGCIEUC cPHIEUPH-SIOS dTHIEUTH FB00 aLATIN_SMALL_LIGATURE_FF
    dFI dFL dFFI dFFL dLONG_S_T dST FB13 aARMENIAN_SMALL_LIGATURE_MEN_NOW eECH eINI dVEW_NOW
    dMEN_XEH FB1D aHEBREW_LETTER_YOD_WITH_HIRIQ bPOINT_JUDEO-SPANISH_VARIKA
    bLIGATURE_YIDDISH_YOD_YOD_PATAH bLETTER_ALTERNATIVE_AYIN cWIDE_ALEF dDALET dHE dKAF dLAMED
    dFINAL_MEM dRESH dTAV cALTERNATIVE_PLUS_SIGN cSHIN_WITH_SHIN_DOT eSIN_b eDAGESH_AND_SHIN_b
    gSIN_b cALEF_WITH_PATAH eQAMATS eMAPIQ cBET_WITH_DAGESH cGIMEL_c cDALET_c cHE_WITH_MAPIQ
    cVAV_WITH_DAGESH cZAYIN_c FB38 cTET_c cYOD_c cFINAL_KAF_c cd cLAMED_c FB3E cMEM_c FB40 cNUN_c
    cSAMEKH_c FB43 cFINAL_PE_c cd FB46 cTSADI_c cQOF_c cRESH_c cSHIN_c cTAV_c cVAV_WITH_HOLAM
    cBET_WITH_RAFE cKAF_c cPE_c bLIGATURE_ALEF_LAMED aARABIC_LETTER_ALEF_WASLA_ISOLATED_FORM
    eFINAL_b cBEEH_ISOLATED_b dFINAL_b dINITIAL_b dMEDIAL_b cPEH_ISOLATED_b dFINAL_b dINITIAL_b
    dMEDIAL_b cBEHEH_ISOLATED_b dFINAL_b dINITIAL_b dMEDIAL_b cTTEHEH_ISOLATED_b dFINAL_b dINITIAL_b
    dMEDIAL_b cTEHEH_ISOLATED_b dFINAL_b dINITIAL_b dMEDIAL_b cTTEH_ISOLATED_b dFINAL_b dINITIAL_b
    dMEDIAL_b cVEH_ISOLATED_b dFINAL_b dINITIAL_b dMEDIAL_b cPEHEH_ISOLATED_b dFINAL_b dINITIAL_b
    dMEDIAL_b cDYEH_ISOLATED_b dFINAL_b dINITIAL_b dMEDIAL_b cNYEH_ISOLATED_b dFINAL_b dINITIAL_b
    dMEDIAL_b cTCHEH_ISOLATED_b dFINAL_b dINITIAL_b dMEDIAL_b cTCHEHEH_ISOLATED_b dFINAL_b
    dINITIAL_b dMEDIAL_b cDDAHAL_ISOLATED_b dFINAL_b cDAHAL_ISOLATED_b dFINAL_b cDUL_ISOLATED_b
    dFINAL_b cDDAL_ISOLATED_b dFINAL_b cJEH_ISOLATED_b dFINAL_b cRREH_ISOLATED_b dFINAL_b
    cKEHEH_ISOLATED_b dFINAL_b dINITIAL_b dMEDIAL_b cGAF_ISOLATED_b dFINAL_b dINITIAL_b dMEDIAL_b
    cGUEH_ISOLATED_b dFINAL_b dINITIAL_b dMEDIAL_b cNGOEH_ISOLATED_b dFINAL_b dINITIAL_b dMEDIAL_b
    cNOON_GHUNNA_ISOLATED_b eFINAL_b cRNOON_ISOLATED_b dFINAL_b dINITIAL_b dMEDIAL_b
    cHEH_WITH_YEH_ABOVE_ISOLATED_b gFINAL_b dGOAL_ISOLATED_b eFINAL_b eINITIAL_b eMEDIAL_b
    dDOACHASHMEE_ISOLATED_b eFINAL_b eINITIAL_b eMEDIAL_b cYEH_BARREE_ISOLATED_b eFINAL_b
    eWITH_HAMZA_ABOVE_ISOLATED_b hFINAL_b bSYMBOL_DOT_ABOVE dBELOW cTWO_DOTS_ABOVE eBELOW
    cTHREE_DOTS_ABOVE eBELOW ePOINTING_DOWNWARDS_ABOVE gBELOW cFOUR_DOTS_ABOVE eBELOW
    cDOUBLE_VERTICAL_BAR_b cTWO_DOTS_VERTICALLY_ABOVE fBELOW cRING cSMALL_TAH_ABOVE eBELOW
    cWASLA_ABOVE FBD3 bLETTER_NG_ISOLATED_FORM dFINAL_b dINITIAL_b dMEDIAL_b cU_ISOLATED_b dFINAL_b
    cOE_ISOLATED_b dFINAL_b cYU_ISOLATED_b dFINAL_b cU_WITH_HAMZA_ABOVE_ISOLATED_b cVE_c dFINAL_b
    cKIRGHIZ_OE_ISOLATED_b eFINAL_b dYU_ISOLATED_b eFINAL_b cE_ISOLATED_b dFINAL_b dINITIAL_b
    dMEDIAL_b cUIGHUR_KAZAKH_KIRGHIZ_ALEF_MAKSURA_INITIAL_b hMEDIAL_b
    bLIGATURE_YEH_WITH_HAMZA_ABOVE_WITH_ALEF_ISOLATED_b iFINAL_b hAE_ISOLATED_b iFINAL_b
    hWAW_ISOLATED_b iFINAL_b hU_ISOLATED_b iFINAL_b hOE_ISOLATED_b iFINAL_b hYU_ISOLATED_b iFINAL_b
    hE_ISOLATED_b iFINAL_b iINITIAL_b
    cUIGHUR_KIRGHIZ_YEH_WITH_HAMZA_ABOVE_WITH_ALEF_MAKSURA_ISOLATED_b lFINAL_b lINITIAL_b
    bLETTER_FARSI_YEH_ISOLATED_b eFINAL_b eINITIAL_b eMEDIAL_b
    bLIGATURE_YEH_WITH_HAMZA_ABOVE_WITH_JEEM_ISOLATED_b hHAH_c hMEEM_c hALEF_MAKSURA_c hYEH_c
    cBEH_WITH_JEEM_c eHAH_c eKHAH_c eMEEM_c eALEF_MAKSURA_c eYEH_c cTEH_WITH_JEEM_c eHAH_c eKHAH_c
    eMEEM_c eALEF_MAKSURA_c eYEH_c cTHEH_WITH_JEEM_c eMEEM_c eALEF_MAKSURA_c eYEH_c cJEEM_WITH_HAH_c
    eMEEM_c cHAH_WITH_JEEM_c eMEEM_c cKHAH_WITH_JEEM_c eHAH_c eMEEM_c cSEEN_WITH_JEEM_c eHAH_c
    eKHAH_c eMEEM_c cSAD_WITH_HAH_c eMEEM_c cDAD_WITH_JEEM_c eHAH_c eKHAH_c eMEEM_c cTAH_WITH_HAH_c
    eMEEM_c cZAH_e cAIN_WITH_JEEM_c eMEEM_c cGHAIN_WITH_JEEM_c eMEEM_c cFEH_WITH_JEEM_c eHAH_c
    eKHAH_c eMEEM_c eALEF_MAKSURA_c eYEH_c cQAF_WITH_HAH_c eMEEM_c eALEF_MAKSURA_c eYEH_c
    cKAF_WITH_ALEF_c eJEEM_c eHAH_c eKHAH_c eLAM_c eMEEM_c eALEF_MAKSURA_c eYEH_c cLAM_WITH_JEEM_c
    eHAH_c eKHAH_c eMEEM_c eALEF_MAKSURA_c eYEH_c cMEEM_WITH_JEEM_c eHAH_c eKHAH_c eMEEM_c
    eALEF_MAKSURA_c eYEH_c cNOON_WITH_JEEM_c eHAH_c eKHAH_c eMEEM_c eALEF_MAKSURA_c eYEH_c
    cHEH_WITH_JEEM_c eMEEM_c eALEF_MAKSURA_c eYEH_c cYEH_WITH_JEEM_c eHAH_c eKHAH_c eMEEM_c
    eALEF_MAKSURA_c eYEH_c cTHAL_WITH_SUPERSCRIPT_ALEF_c cREH_f cALEF_MAKSURA_f
    cSHADDA_WITH_DAMMATAN_c eKASRATAN_c eFATHA_c eDAMMA_c eKASRA_c eSUPERSCRIPT_ALEF_c
    cYEH_WITH_HAMZA_ABOVE_WITH_REH_FINAL_b hZAIN_c hMEEM_c hNOON_c hALEF_MAKSURA_c hYEH_c
    cBEH_WITH_REH_c eZAIN_c eMEEM_c eNOON_c eALEF_MAKSURA_c eYEH_c cTEH_WITH_REH_c eZAIN_c eMEEM_c
    eNOON_c eALEF_MAKSURA_c eYEH_c cTHEH_WITH_REH_c eZAIN_c eMEEM_c eNOON_c eALEF_MAKSURA_c eYEH_c
    cFEH_WITH_ALEF_MAKSURA_c eYEH_c cQAF_WITH_ALEF_MAKSURA_c eYEH_c cKAF_WITH_ALEF_c eLAM_c eMEEM_c
    eALEF_MAKSURA_c eYEH_c cLAM_WITH_MEEM_c eALEF_MAKSURA_c eYEH_c cMEEM_WITH_ALEF_c eMEEM_c
    cNOON_WITH_REH_c eZAIN_c eMEEM_c eNOON_c eALEF_MAKSURA_c eYEH_c
    cALEF_MAKSURA_WITH_SUPERSCRIPT_ALEF_c cYEH_WITH_REH_c eZAIN_c eMEEM_c eNOON_c eALEF_MAKSURA_c
    eYEH_c eHAMZA_ABOVE_WITH_JEEM_INITIAL_b hHAH_c hKHAH_c hMEEM_c hHEH_c cBEH_WITH_JEEM_c eHAH_c
    eKHAH_c eMEEM_c eHEH_c cTEH_WITH_JEEM_c eHAH_c eKHAH_c eMEEM_c eHEH_c cTHEH_WITH_MEEM_c
    cJEEM_WITH_HAH_c eMEEM_c cHAH_WITH_JEEM_c eMEEM_c cKHAH_WITH_JEEM_c eMEEM_c cSEEN_WITH_JEEM_c
    eHAH_c eKHAH_c eMEEM_c cSAD_WITH_HAH_c eKHAH_c eMEEM_c cDAD_WITH_JEEM_c eHAH_c eKHAH_c eMEEM_c
    cTAH_WITH_HAH_c cZAH_WITH_MEEM_c cAIN_WITH_JEEM_c eMEEM_c cGHAIN_WITH_JEEM_c eMEEM_c
    cFEH_WITH_JEEM_c eHAH_c eKHAH_c eMEEM_c cQAF_WITH_HAH_c eMEEM_c cKAF_WITH_JEEM_c eHAH_c eKHAH_c
    eLAM_c eMEEM_c cLAM_WITH_JEEM_c eHAH_c eKHAH_c eMEEM_c eHEH_c cMEEM_WITH_JEEM_c eHAH_c eKHAH_c
    eMEEM_c cNOON_WITH_JEEM_c eHAH_c eKHAH_c eMEEM_c eHEH_c cHEH_WITH_JEEM_c eMEEM_c
    eSUPERSCRIPT_ALEF_c cYEH_WITH_JEEM_c eHAH_c eKHAH_c eMEEM_c eHEH_c
    eHAMZA_ABOVE_WITH_MEEM_MEDIAL_b hHEH_c cBEH_WITH_MEEM_c eHEH_c cTEH_WITH_MEEM_c eHEH_c
    cTHEH_WITH_MEEM_c eHEH_c cSEEN_WITH_MEEM_c eHEH_c cSHEEN_WITH_MEEM_c eHEH_c cKAF_WITH_LAM_c
    eMEEM_c cLAM_e cNOON_e eHEH_c cYEH_WITH_MEEM_c eHEH_c cSHADDA_WITH_FATHA_c eDAMMA_c eKASRA_c
    cTAH_WITH_ALEF_MAKSURA_ISOLATED_b eYEH_c cAIN_WITH_ALEF_MAKSURA_c eYEH_c
    cGHAIN_WITH_ALEF_MAKSURA_c eYEH_c cSEEN_WITH_ALEF_MAKSURA_c eYEH_c cSHEEN_WITH_ALEF_MAKSURA_c
    eYEH_c cHAH_WITH_ALEF_MAKSURA_c eYEH_c cJEEM_WITH_ALEF_MAKSURA_c eYEH_c
    cKHAH_WITH_ALEF_MAKSURA_c eYEH_c cSAD_WITH_ALEF_MAKSURA_c eYEH_c cDAD_WITH_ALEF_MAKSURA_c eYEH_c
    cSHEEN_WITH_JEEM_c eHAH_c eKHAH_c eMEEM_c eREH_c cSEEN_e cSAD_e cDAD_e
    cTAH_WITH_ALEF_MAKSURA_FINAL_b eYEH_c cAIN_WITH_ALEF_MAKSURA_c eYEH_c cGHAIN_WITH_ALEF_MAKSURA_c
    eYEH_c cSEEN_WITH_ALEF_MAKSURA_c eYEH_c cSHEEN_WITH_ALEF_MAKSURA_c eYEH_c
    cHAH_WITH_ALEF_MAKSURA_c eYEH_c cJEEM_WITH_ALEF_MAKSURA_c eYEH_c cKHAH_WITH_ALEF_MAKSURA_c
    eYEH_c cSAD_WITH_ALEF_MAKSURA_c eYEH_c cDAD_WITH_ALEF_MAKSURA_c eYEH_c cSHEEN_WITH_JEEM_c eHAH_c
    eKHAH_c eMEEM_c eREH_c cSEEN_e cSAD_e cDAD_e cSHEEN_WITH_JEEM_INITIAL_b eHAH_c eKHAH_c eMEEM_c
    cSEEN_WITH_HEH_c cSHEEN_e cTAH_WITH_MEEM_c cSEEN_WITH_JEEM_MEDIAL_b eHAH_c eKHAH_c
    cSHEEN_WITH_JEEM_c eHAH_c eKHAH_c cTAH_WITH_MEEM_c cZAH_e cALEF_WITH_FATHATAN_FINAL_b
    fISOLATED_b aORNATE_LEFT_PARENTHESIS bRIGHT_b aARABIC_LIGATURE_RAHIMAHU_ALLAAH cRADI_ALLAAHU_ANH
    eANHAA eANHUM eANHUMAA eANHUNNA cSALLALLAAHU_ALAYHI_WA-AALIH cALAYHI_AS-SALAAM cALAYHIM_c
    cALAYHIMAA_c cALAYHI_AS-SALAATU_WAS-b cQUDDISA_SIRRAH cSALLALLAHU_ALAYHI_WAAALIHEE_WA-SALLAM
    cALAYHAA_AS-SALAAM cTABAARAKA_WA-TAAALAA cRAHIMAHUM_ALLAAH cTEH_WITH_JEEM_WITH_MEEM_INITIAL_FORM
    eHAH_WITH_JEEM_FINAL_b hINITIAL_b gMEEM_c eKHAH_e eMEEM_WITH_JEEM_c gHAH_c gKHAH_c
    cJEEM_WITH_MEEM_WITH_HAH_FINAL_b hINITIAL_b cHAH_WITH_MEEM_WITH_YEH_FINAL_b gALEF_MAKSURA_c
    cSEEN_WITH_HAH_WITH_JEEM_INITIAL_b eJEEM_WITH_HAH_c gALEF_MAKSURA_FINAL_b eMEEM_WITH_HAH_c
    hINITIAL_b gJEEM_c gMEEM_FINAL_b hINITIAL_b cSAD_WITH_HAH_WITH_HAH_FINAL_b hINITIAL_b
    eMEEM_WITH_MEEM_FINAL_b cSHEEN_WITH_HAH_e hINITIAL_b eJEEM_WITH_YEH_FINAL_b eMEEM_WITH_KHAH_c
    hINITIAL_b gMEEM_FINAL_b hINITIAL_b cDAD_WITH_HAH_WITH_ALEF_MAKSURA_FINAL_b eKHAH_WITH_MEEM_c
    hINITIAL_b cTAH_WITH_MEEM_WITH_HAH_FINAL_b hINITIAL_b gMEEM_c gYEH_FINAL_b
    cAIN_WITH_JEEM_WITH_MEEM_c eMEEM_e hINITIAL_b gALEF_MAKSURA_FINAL_b cGHAIN_WITH_MEEM_WITH_MEEM_c
    gYEH_c gALEF_MAKSURA_c cFEH_WITH_KHAH_WITH_MEEM_c hINITIAL_b cQAF_WITH_MEEM_WITH_HAH_FINAL_b
    gMEEM_c cLAM_WITH_HAH_e gYEH_c gALEF_MAKSURA_c eJEEM_WITH_JEEM_INITIAL_b hFINAL_b
    eKHAH_WITH_MEEM_c hINITIAL_b eMEEM_WITH_HAH_FINAL_b hINITIAL_b cMEEM_WITH_HAH_WITH_JEEM_c
    gMEEM_c gYEH_FINAL_b eJEEM_WITH_HAH_INITIAL_b gMEEM_c eKHAH_WITH_JEEM_c gMEEM_c FD92
    eJEEM_WITH_KHAH_c cHEH_WITH_MEEM_WITH_JEEM_c gMEEM_c cNOON_WITH_HAH_e gALEF_MAKSURA_FINAL_b
    eJEEM_WITH_MEEM_c hINITIAL_b gALEF_MAKSURA_FINAL_b eMEEM_WITH_YEH_c gALEF_MAKSURA_c
    cYEH_WITH_MEEM_WITH_MEEM_c hINITIAL_b cBEH_WITH_KHAH_WITH_YEH_FINAL_b cTEH_WITH_JEEM_e
    gALEF_MAKSURA_c eKHAH_WITH_YEH_c gALEF_MAKSURA_c eMEEM_WITH_YEH_c gALEF_MAKSURA_c
    cJEEM_WITH_MEEM_WITH_YEH_c eHAH_WITH_ALEF_MAKSURA_c eMEEM_f cSEEN_WITH_KHAH_f
    cSAD_WITH_HAH_WITH_YEH_c cSHEEN_g cDAD_g cLAM_WITH_JEEM_e eMEEM_e cYEH_WITH_HAH_e eJEEM_e
    eMEEM_e cMEEM_g cQAF_g cNOON_WITH_HAH_e cQAF_WITH_MEEM_WITH_HAH_INITIAL_b
    cLAM_WITH_HAH_WITH_MEEM_c cAIN_WITH_MEEM_WITH_YEH_FINAL_b cKAF_g
    cNOON_WITH_JEEM_WITH_HAH_INITIAL_b cMEEM_WITH_KHAH_WITH_YEH_FINAL_b
    cLAM_WITH_JEEM_WITH_MEEM_INITIAL_b cKAF_WITH_MEEM_WITH_MEEM_FINAL_b cLAM_WITH_JEEM_e
    cNOON_WITH_JEEM_WITH_HAH_c cJEEM_WITH_HAH_WITH_YEH_c cHAH_WITH_JEEM_e cMEEM_g cFEH_WITH_MEEM_e
    cBEH_WITH_HAH_e cKAF_WITH_MEEM_WITH_MEEM_INITIAL_b cAIN_WITH_JEEM_e cSAD_WITH_MEEM_e
    cSEEN_WITH_KHAH_WITH_YEH_FINAL_b cNOON_WITH_JEEM_e FDCF cSALAAMUHU_ALAYNAA FDF0
    cSALLA_USED_AS_KORANIC_STOP_SIGN_ISOLATED_FORM cQALA_h cALLAH_c cAKBAR_c cMOHAMMAD_c cSALAM_c
    cRASOUL_c cALAYHE_c cWASALLAM_c cSALLA_c cSALLALLAHOU_ALAYHE_WASALLAM cJALLAJALALOUHOU
    aRIAL_SIGN aARABIC_LIGATURE_BISMILLAH_AR-RAHMAN_AR-RAHEEM cSUBHAANAHU_WA_TAAALAA cAZZA_WA_JALL
    aVARIATION_SELECTOR-1 c2 c3 c4 c5 c6 c7 c8 c9 c10 c11 c12 c13 c14 c15 c16
    aPRESENTATION_FORM_FOR_VERTICAL_COMMA eIDEOGRAPHIC_b fFULL_STOP eCOLON eSEMICOLON
    eEXCLAMATION_MARK eQUESTION_b eLEFT_WHITE_LENTICULAR_BRACKET eRIGHT_WHITE_LENTICULAR_BRAKCET
    eHORIZONTAL_ELLIPSIS FE20 aCOMBINING_LIGATURE_LEFT_HALF cRIGHT_b bDOUBLE_TILDE_LEFT_b dRIGHT_b
    bMACRON_LEFT_b cRIGHT_b bCONJOINING_MACRON bLIGATURE_LEFT_HALF_BELOW cRIGHT_c bTILDE_LEFT_c
    cRIGHT_c bMACRON_LEFT_c cRIGHT_c bCONJOINING_MACRON_b bCYRILLIC_TITLO_LEFT_HALF dRIGHT_b
    aPRESENTATION_FORM_FOR_VERTICAL_TWO_DOT_LEADER eEM_DASH eEN_b eLOW_LINE eWAVY_c
    eLEFT_PARENTHESIS eRIGHT_b eLEFT_CURLY_BRACKET eRIGHT_c eLEFT_TORTOISE_SHELL_b eRIGHT_d
    eLEFT_BLACK_LENTICULAR_b eRIGHT_d eLEFT_DOUBLE_ANGLE_b eRIGHT_d eLEFT_c eRIGHT_c eLEFT_CORNER_b
    eRIGHT_c eLEFT_WHITE_c eRIGHT_d aSESAME_DOT aWHITE_c
    aPRESENTATION_FORM_FOR_VERTICAL_LEFT_SQUARE_BRACKET eRIGHT_c aDASHED_OVERLINE aCENTRELINE_b
    aWAVY_b aDOUBLE_c aDASHED_LOW_LINE aCENTRELINE_c aWAVY_c aSMALL_COMMA bIDEOGRAPHIC_b bFULL_STOP
    FE54 bSEMICOLON bCOLON bQUESTION_MARK bEXCLAMATION_b bEM_DASH bLEFT_PARENTHESIS bRIGHT_b
    bLEFT_CURLY_BRACKET bRIGHT_c bLEFT_TORTOISE_SHELL_b bRIGHT_d bNUMBER_SIGN bAMPERSAND bASTERISK
    bPLUS_SIGN bHYPHEN-MINUS bLESS-THAN_SIGN bGREATER-c bEQUALS_b FE68 bREVERSE_SOLIDUS bDOLLAR_SIGN
    bPERCENT_b bCOMMERCIAL_AT FE70 aARABIC_FATHATAN_ISOLATED_FORM bTATWEEL_WITH_FATHATAN_ABOVE
    bDAMMATAN_ISOLATED_FORM bTAIL_FRAGMENT bKASRATAN_ISOLATED_FORM FE76 bFATHA_c cMEDIAL_b
    bDAMMA_ISOLATED_b cMEDIAL_b bKASRA_ISOLATED_b cMEDIAL_b bSHADDA_ISOLATED_b cMEDIAL_b
    bSUKUN_ISOLATED_b cMEDIAL_b bLETTER_HAMZA_ISOLATED_b cALEF_WITH_MADDA_ABOVE_c gFINAL_b
    eHAMZA_ABOVE_ISOLATED_b gFINAL_b cWAW_WITH_HAMZA_ABOVE_ISOLATED_b gFINAL_b
    cALEF_WITH_HAMZA_BELOW_ISOLATED_b gFINAL_b cYEH_WITH_HAMZA_ABOVE_ISOLATED_b gFINAL_b gINITIAL_b
    gMEDIAL_b cALEF_ISOLATED_b dFINAL_b cBEH_ISOLATED_b dFINAL_b dINITIAL_b dMEDIAL_b
    cTEH_MARBUTA_ISOLATED_b eFINAL_b dISOLATED_b dFINAL_b dINITIAL_b dMEDIAL_b cTHEH_ISOLATED_b
    dFINAL_b dINITIAL_b dMEDIAL_b cJEEM_ISOLATED_b dFINAL_b dINITIAL_b dMEDIAL_b cHAH_ISOLATED_b
    dFINAL_b dINITIAL_b dMEDIAL_b cKHAH_ISOLATED_b dFINAL_b dINITIAL_b dMEDIAL_b cDAL_ISOLATED_b
    dFINAL_b cTHAL_ISOLATED_b dFINAL_b cREH_ISOLATED_b dFINAL_b cZAIN_ISOLATED_b dFINAL_b
    cSEEN_ISOLATED_b dFINAL_b dINITIAL_b dMEDIAL_b cSHEEN_ISOLATED_b dFINAL_b dINITIAL_b dMEDIAL_b
    cSAD_ISOLATED_b dFINAL_b dINITIAL_b dMEDIAL_b cDAD_ISOLATED_b dFINAL_b dINITIAL_b dMEDIAL_b
    cTAH_ISOLATED_b dFINAL_b dINITIAL_b dMEDIAL_b cZAH_ISOLATED_b dFINAL_b dINITIAL_b dMEDIAL_b
    cAIN_ISOLATED_b dFINAL_b dINITIAL_b dMEDIAL_b cGHAIN_ISOLATED_b dFINAL_b dINITIAL_b dMEDIAL_b
    cFEH_ISOLATED_b dFINAL_b dINITIAL_b dMEDIAL_b cQAF_ISOLATED_b dFINAL_b dINITIAL_b dMEDIAL_b
    cKAF_ISOLATED_b dFINAL_b dINITIAL_b dMEDIAL_b cLAM_ISOLATED_b dFINAL_b dINITIAL_b dMEDIAL_b
    cMEEM_ISOLATED_b dFINAL_b dINITIAL_b dMEDIAL_b cNOON_ISOLATED_b dFINAL_b dINITIAL_b dMEDIAL_b
    cHEH_ISOLATED_b dFINAL_b dINITIAL_b dMEDIAL_b cWAW_ISOLATED_b dFINAL_b cALEF_MAKSURA_ISOLATED_b
    eFINAL_b cYEH_ISOLATED_b dFINAL_b dINITIAL_b dMEDIAL_b
    bLIGATURE_LAM_WITH_ALEF_WITH_MADDA_ABOVE_ISOLATED_b iFINAL_b gHAMZA_ABOVE_ISOLATED_b iFINAL_b
    hBELOW_ISOLATED_b iFINAL_b fISOLATED_b fFINAL_b FEFF aZERO_WIDTH_NO-BREAK_SPACE FF01
    aFULLWIDTH_EXCLAMATION_MARK bQUOTATION_b bNUMBER_SIGN bDOLLAR_b bPERCENT_b bAMPERSAND
    bAPOSTROPHE bLEFT_PARENTHESIS bRIGHT_b bASTERISK bPLUS_SIGN bCOMMA bHYPHEN-MINUS bFULL_STOP
    bSOLIDUS bDIGIT_ZERO cONE cTWO cTHREE cFOUR cFIVE cSIX cSEVEN cEIGHT cNINE bCOLON bSEMICOLON
    bLESS-THAN_SIGN bEQUALS_b bGREATER-THAN_b bQUESTION_MARK bCOMMERCIAL_AT bLATIN_CAPITAL_LETTER_A
    eB eC eD eE eF eG eH eI eJ eK eL eM eN eO eP eQ eR eS eT eU eV eW eX eY eZ bLEFT_SQUARE_BRACKET
    bREVERSE_SOLIDUS bRIGHT_SQUARE_BRACKET bCIRCUMFLEX_ACCENT bLOW_LINE bGRAVE_ACCENT
    bLATIN_SMALL_LETTER_A eB eC eD eE eF eG eH eI eJ eK eL eM eN eO eP eQ eR eS eT eU eV eW eX eY eZ
    bLEFT_CURLY_BRACKET bVERTICAL_LINE bRIGHT_CURLY_BRACKET bTILDE bLEFT_WHITE_PARENTHESIS bRIGHT_c
    aHALFWIDTH_IDEOGRAPHIC_FULL_STOP bLEFT_CORNER_BRACKET bRIGHT_c bIDEOGRAPHIC_COMMA
    bKATAKANA_MIDDLE_DOT cLETTER_WO dSMALL_A eI eU eE eO eYA eYU eYO eTU
    bKATAKANA-HIRAGANA_PROLONGED_SOUND_MARK bKATAKANA_LETTER_A dI dU dE dO dKA dKI dKU dKE dKO dSA
    dSI dSU dSE dSO dTA dTI dTU dTE dTO dNA dNI dNU dNE dNO dHA dHI dHU dHE dHO dMA dMI dMU dME dMO
    dYA dYU dYO dRA dRI dRU dRE dRO dWA dN cVOICED_SOUND_MARK cSEMI-d bHANGUL_FILLER cLETTER_KIYEOK
    dSSANGKIYEOK dKIYEOK-SIOS dNIEUN dNIEUN-CIEUC eHIEUH dTIKEUT dSSANGTIKEUT dRIEUL dRIEUL-KIYEOK
    eMIEUM ePIEUP eSIOS eTHIEUTH ePHIEUPH eHIEUH dMIEUM dPIEUP dSSANGPIEUP dPIEUP-SIOS db dSSANGSIOS
    dIEUNG dCIEUC dSSANGCIEUC dCHIEUCH dKHIEUKH dTHIEUTH dPHIEUPH dHIEUH FFC2 dA dAE dYA dYAE dEO dE
    FFCA dYEO dYE dO dWA dWAE dOE FFD2 dYO dU dWEO dWE dWI dYU FFDA dEU dYI dI FFE0
    aFULLWIDTH_CENT_SIGN bPOUND_b bNOT_b bMACRON bBROKEN_BAR bYEN_SIGN bWON_b FFE8
    aHALFWIDTH_FORMS_LIGHT_VERTICAL bLEFTWARDS_ARROW bUPWARDS_b bRIGHTWARDS_b bDOWNWARDS_b
    bBLACK_SQUARE bWHITE_CIRCLE FFF9 aINTERLINEAR_ANNOTATION_ANCHOR cSEPARATOR cTERMINATOR
    aOBJECT_REPLACEMENT_CHARACTER ac"

end SourceConventions.Text.CharName
