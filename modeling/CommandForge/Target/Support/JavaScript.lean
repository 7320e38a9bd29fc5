/-!
# The base class of generated JavaScript commands

The file as it is shipped, line by line.
-/

namespace CommandForge.Support

/-- The lines of the base file. -/
def javaScriptBase : List String := [
  "// This file is auto-generated. Do not edit manually.",
  "",
  "/**",
  " * Base class for generated commands.",
  " *",
  " * Subclasses declare `static COMMAND_NAME` (the normalized name) and",
  " * `static FIELDS`, a table of `\x7b name, type, optional \x7d` entries in schema",
  " * order, and initialise every field in their constructor.",
  " */",
  "",
  "export const COMMAND_NAME_KEY = 'command_name';",
  "",
  "/**",
  " * Thrown when JSON text cannot be decoded into a command.",
  " */",
  "export class DecodeError extends Error \x7b",
  "    constructor(message) \x7b",
  "        super(message);",
  "        this.name = 'DecodeError';",
  "    \x7d",
  "\x7d",
  "",
  "function matchesType(value, type) \x7b",
  "    switch (type) \x7b",
  "        case 'string':",
  "            return typeof value === 'string';",
  "        case 'integer':",
  "            // Integers beyond 2^53 have already lost precision in JSON.parse",
  "            return Number.isSafeInteger(value);",
  "        case 'boolean':",
  "            return typeof value === 'boolean';",
  "        default:",
  "            return false;",
  "    \x7d",
  "\x7d",
  "",
  "export class Command \x7b",
  "    static COMMAND_NAME = '';",
  "    static FIELDS = [];",
  "",
  "    get commandName() \x7b",
  "        return this.constructor.COMMAND_NAME;",
  "    \x7d",
  "",
  "    /**",
  "     * Plain object with `command_name` first and absent optionals omitted.",
  "     */",
  "    toObject() \x7b",
  "        const result = \x7b [COMMAND_NAME_KEY]: this.commandName \x7d;",
  "        for (const field of this.constructor.FIELDS) \x7b",
  "            const value = this[field.name];",
  "            if (field.optional && (value === null || value === undefined)) \x7b",
  "                continue;",
  "            \x7d",
  "            result[field.name] = value;",
  "        \x7d",
  "        return result;",
  "    \x7d",
  "",
  "    toJson(indent = 0) \x7b",
  "        return JSON.stringify(this.toObject(), null, indent > 0 ? indent : undefined);",
  "    \x7d",
  "",
  "    /**",
  "     * Decode JSON text into an instance of `cls`.",
  "     *",
  "     * Keys match case-insensitively with an exactly lowercase key winning.",
  "     * Unknown keys are ignored and null counts as absent.",
  "     */",
  "    static fromJson(json, cls = this) \x7b",
  "        let data;",
  "        try \x7b",
  "            data = JSON.parse(json);",
  "        \x7d catch (err) \x7b",
  "            throw new DecodeError(`malformed JSON for $\x7bcls.COMMAND_NAME\x7d: $\x7berr.message\x7d`);",
  "        \x7d",
  "",
  "        if (data === null || typeof data !== 'object' || Array.isArray(data)) \x7b",
  "            const kind = Array.isArray(data) ? 'array' : data === null ? 'null' : typeof data;",
  "            throw new DecodeError(`expected a JSON object for $\x7bcls.COMMAND_NAME\x7d, found $\x7bkind\x7d`);",
  "        \x7d",
  "",
  "        const folded = new Map();",
  "        for (const [key, value] of Object.entries(data)) \x7b",
  "            const lower = key.toLowerCase();",
  "            if (lower === COMMAND_NAME_KEY || value === null) \x7b",
  "                continue;",
  "            \x7d",
  "            if (lower === key || !folded.has(lower)) \x7b",
  "                folded.set(lower, value);",
  "            \x7d",
  "        \x7d",
  "",
  "        const instance = new cls();",
  "        for (const field of cls.FIELDS) \x7b",
  "            if (!folded.has(field.name)) \x7b",
  "                continue;",
  "            \x7d",
  "            const value = folded.get(field.name);",
  "            if (!matchesType(value, field.type)) \x7b",
  "                throw new DecodeError(",
  "                    `field '$\x7bfield.name\x7d' of $\x7bcls.COMMAND_NAME\x7d expects $\x7bfield.type\x7d, found $\x7btypeof value\x7d`",
  "                );",
  "            \x7d",
  "            instance[field.name] = value;",
  "        \x7d",
  "        return instance;",
  "    \x7d",
  "\x7d"]

end CommandForge.Support
